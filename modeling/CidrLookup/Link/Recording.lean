import CidrLookup.Link

/-!
# A recording link

A link without a socket, which keeps what it was asked to do. Its sends succeed until a point that
is set beforehand, and fail with a given error from then on.
-/

namespace CidrLookup

/-- The calls a link has had, the newest first, and what its sends do. -/
structure RecordingLink where
  targets : List Endpoint
  closes : Nat
  sent : List Bytes
  /-- After so many more sends, every one fails with this error. -/
  fault : Option (Nat × SessionError)
deriving Repr

namespace RecordingLink

/-- A link that was asked nothing and does not fail. -/
def new : RecordingLink :=
  ⟨[], 0, [], none⟩

/-- Answers a send. -/
def take (frame : Bytes) (link : RecordingLink) : Except SessionError Unit × RecordingLink :=
  match link.fault with
  | none => (.ok (), { link with sent := frame :: link.sent })
  | some (0, error) => (.error error, link)
  | some (n + 1, error) =>
    (.ok (), { link with sent := frame :: link.sent, fault := some (n, error) })

instance : Link RecordingLink where
  startConnect endpoint link := { link with targets := endpoint :: link.targets }
  send := take
  close link := { link with closes := link.closes + 1 }

end RecordingLink

end CidrLookup
