import Campus.Text.Blank

/-!
# Email addresses
-/

namespace Campus

/-- A name, an `@`, and a domain with a dot that is not at its ends; no blanks and no second `@`. -/
def isEmail (s : String) : Bool :=
  let cs := s.toList
  let name := cs.takeWhile (· != '@')
  match cs.dropWhile (· != '@') with
  | [] => false
  | _ :: domain =>
    !name.isEmpty && !domain.contains '@' && domain.contains '.' && domain.head? != some '.'
      && domain.getLast? != some '.' && !cs.any isBlank

end Campus
