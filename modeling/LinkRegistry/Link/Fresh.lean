import LinkRegistry.IdSource
import LinkRegistry.Link.Basic

/-!
# Fresh links

**Input.** A network, a source of ids and the time.

**Rule.** A fresh link has a drawn id, the network and the time as its time of creation,
and nothing else.
-/

namespace LinkRegistry
namespace Link

/-- A fresh link, and the source that remains. -/
def fresh (network : String) (ids : IdSource) (now : Time.Timestamp) : Link × IdSource :=
  let (id, rest) := ids.draw
  (create id network now, rest)

/-- Fresh links, one per time, and the source that remains. -/
def freshAll (network : String) : IdSource → List Time.Timestamp → List Link × IdSource
  | ids, [] => ([], ids)
  | ids, now :: times =>
      let (l, rest) := fresh network ids now
      let (ls, rest) := freshAll network rest times
      (l :: ls, rest)

end Link
end LinkRegistry
