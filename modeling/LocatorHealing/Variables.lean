set_option autoImplicit false
set_option relaxedAutoImplicit false

/-!
Environment variables: texts under names. A variable set to the empty text counts as unset for
most readers.
-/

namespace LocatorHealing

abbrev Variables := List (String × String)

namespace Variables

def get? : Variables → String → Option String
  | [], _ => none
  | (k, v) :: rest, name => if k = name then some v else get? rest name

def filled? (vars : Variables) (name : String) : Option String :=
  (vars.get? name).filter (· ≠ "")

def put : Variables → String → String → Variables
  | [], name, value => [(name, value)]
  | (k, v) :: rest, name, value =>
    if k = name then (name, value) :: rest else (k, v) :: put rest name value

theorem get?_put (vars : Variables) (name other value : String) :
    (vars.put name value).get? other = if name = other then some value else vars.get? other := by
  induction vars with
  | nil => rfl
  | cons p rest ih =>
    obtain ⟨k, v⟩ := p
    by_cases h : k = name
    · subst h
      simp only [put, get?, if_true]
      split <;> rfl
    · simp only [put, get?, h, if_false, ih]
      by_cases h' : k = other
      · subst h'
        simp [Ne.symm h]
      · simp [h']

end Variables

end LocatorHealing
