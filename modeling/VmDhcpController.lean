import VmDhcpController.Go.Map
import VmDhcpController.Go.Strings
import VmDhcpController.Go.Netip
import VmDhcpController.Go.Net
import VmDhcpController.Api.Types
import VmDhcpController.Util.Resolve
import VmDhcpController.Util.Network
import VmDhcpController.Util.ServiceCIDR
import VmDhcpController.Controller.Cluster
import VmDhcpController.Controller.Handler
import VmDhcpController.Controller.World
import VmDhcpController.Webhook.Validator
import VmDhcpController.Controller.Admission
import VmDhcpController.Proof.NetworkConfigs
import VmDhcpController.Proof.Pass
import VmDhcpController.Proof.Written
import VmDhcpController.Proof.Versions
import VmDhcpController.Proof.TwoPhase
import VmDhcpController.Proof.Runs
import VmDhcpController.Proof.Cidr
import VmDhcpController.Proof.Allocated
import VmDhcpController.Proof.Store
import VmDhcpController.Proof.Settle
import VmDhcpController.Proof.Requests
