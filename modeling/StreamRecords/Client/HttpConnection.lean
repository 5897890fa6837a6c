import StreamRecords.Client.Config
import StreamRecords.Dialogue.Run

/-!
Connections over HTTP, as far as they are settled before anything is sent.
-/

namespace StreamRecords

open Text

/-- **A connection over HTTP.** -/
structure HttpConnection where
  endpoint : String
  username : String
  password : String
  deriving DecidableEq, Repr

namespace HttpConnection

/-- The connection that `c` describes. None is made yet. -/
def ofConfig (c : ClientConfig) : Except ClientError HttpConnection :=
  c.validate.map fun c => ⟨c.endpoint, c.username, c.password⟩

/-- `h` on one line, without its password. -/
def summary (h : HttpConnection) : String :=
  s!"HttpTransport \x7b endpoint: {quoted h.endpoint}, username: {quoted h.username}, .. \x7d"

end HttpConnection

/-- A node that cannot be reached. -/
def unreachable : Node Unit := fun s _ => (.error (.http "no node can be reached"), s)

end StreamRecords
