import Courier.Directory

/-!
Openers for rehearsals: each notes its name and the URL it is asked for, and opens nothing.
-/

namespace Courier.Rehearsal

/-- Who was asked, and for which URL. -/
abbrev Asked := List (String × String)

/-- An opener of the given kind, which refuses with a text if it has one. -/
def recorder (kind name : String) (refusal : Option String) : Opener Asked String Unit :=
  fun u asked =>
    let answer := match refusal with
      | some t => .error (.refused kind u.text t)
      | none => .ok ()
    (answer, asked ++ [(name, u.text)])

end Courier.Rehearsal
