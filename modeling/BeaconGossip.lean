import BeaconGossip.Dump
import BeaconGossip.Main
import BeaconGossip.Proofs.Config
import BeaconGossip.Proofs.Controller.BlockOutcome
import BeaconGossip.Proofs.Controller.Burst
import BeaconGossip.Proofs.Controller.Coherence
import BeaconGossip.Proofs.Controller.Delivery
import BeaconGossip.Proofs.Controller.Publishing
import BeaconGossip.Proofs.Controller.Recovery
import BeaconGossip.Proofs.Controller.SideBySide
import BeaconGossip.Proofs.Dump.Path
import BeaconGossip.Proofs.Dump.Run
import BeaconGossip.Proofs.Message
import BeaconGossip.Proofs.Message.Faults
import BeaconGossip.Proofs.Node.Accounts
import BeaconGossip.Proofs.Node.Inbound
import BeaconGossip.Proofs.Node.Isolation
import BeaconGossip.Proofs.Node.SubnetChannels
import BeaconGossip.Proofs.Node.SubnetGauge
import BeaconGossip.Proofs.Subnet
import BeaconGossip.Proofs.Topic.Parser
import BeaconGossip.Registry.Exposition
import BeaconGossip.Scenario
import BeaconGossip.Topic.Parser
