import RequestQuery.Proofs.Command.Arguments
import RequestQuery.Proofs.Command.Outcome
import RequestQuery.Proofs.Log.Confined

namespace RequestQuery

open FileTree (destination visited)

variable {tree : FileTree} {location : Location} {bytes bytes' : List UInt8} {path : String}

namespace Command

variable {c : Command} {s s' : Settings}

end Command

namespace Outcome

variable {arguments : List String} {c : Command}

end Outcome

end RequestQuery
