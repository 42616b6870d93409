import LocatorHealing.Number.Basic

set_option autoImplicit false
set_option relaxedAutoImplicit false

/-!
JSON values. The members of an object keep the order in which their names first came, and a
later value under a name takes the place of the earlier one. Numbers remember whether they were
written as integers.
-/

namespace LocatorHealing

inductive Json where
  | null
  | bool (b : Bool)
  | num (n : Number)
  | str (s : String)
  | arr (items : List Json)
  | obj (members : List (String × Json))

namespace Json

instance : Inhabited Json := ⟨.null⟩

instance : Coe String Json := ⟨.str⟩

def ofText? : Option String → Json
  | some s => .str s
  | none => .null

def ofFlag? : Option Bool → Json
  | some b => .bool b
  | none => .null

def ofInt? : Option Int → Json
  | some n => .num (.int n)
  | none => .null

end Json

abbrev Members := List (String × Json)

namespace Members

def get? : Members → String → Option Json
  | [], _ => none
  | (k, v) :: rest, name => if k = name then some v else get? rest name

def contains (m : Members) (name : String) : Bool :=
  (m.get? name).isSome

/-- Put a value under a name: in the place of an earlier value, or else at the end. -/
def put : Members → String → Json → Members
  | [], name, value => [(name, value)]
  | (k, v) :: rest, name, value =>
    if k = name then (name, value) :: rest else (k, v) :: put rest name value

def ofPairs (pairs : List (String × Json)) : Members :=
  pairs.foldl (fun m p => m.put p.1 p.2) []

def names (m : Members) : List String :=
  m.map Prod.fst

theorem get?_put (m : Members) (name other : String) (value : Json) :
    (m.put name value).get? other = if name = other then some value else m.get? other := by
  induction m with
  | nil => rfl
  | cons p rest ih =>
    obtain ⟨k, v⟩ := p
    by_cases h : k = name
    · subst h
      simp only [put, get?, if_true]
      split <;> rfl
    · simp only [put, get?, h, if_false, ih]
      by_cases h' : k = other
      · subst h'
        simp [Ne.symm h]
      · simp [h']

@[simp] theorem get?_put_self (m : Members) (name : String) (value : Json) :
    (m.put name value).get? name = some value := by
  simp [get?_put]

theorem put_of_not_mem {m : Members} {name : String} (new : name ∉ m.names) (value : Json) :
    m.put name value = m ++ [(name, value)] := by
  induction m with
  | nil => rfl
  | cons p rest ih =>
    obtain ⟨k, v⟩ := p
    simp only [names, List.map_cons, List.mem_cons, not_or] at new
    simp [put, Ne.symm new.1, ih new.2]

theorem ofPairs_of_nodup {pairs : List (String × Json)} (distinct : (names pairs).Nodup) :
    ofPairs pairs = pairs := by
  suffices ∀ m : Members, (names (m ++ pairs)).Nodup →
      pairs.foldl (fun m p => m.put p.1 p.2) m = m ++ pairs from
    (this [] distinct).trans (List.nil_append pairs)
  clear distinct
  induction pairs with
  | nil => exact fun m _ => (List.append_nil m).symm
  | cons p rest ih =>
    intro m distinct
    have parts : m ++ p :: rest = (m ++ [p]) ++ rest := by simp
    have new : p.1 ∉ names m := by
      rw [names, List.map_append, List.nodup_append] at distinct
      exact fun member => distinct.2.2 p.1 member p.1 (by simp) rfl
    rw [List.foldl_cons, put_of_not_mem new, ih (m ++ [p]) (parts ▸ distinct), parts]

end Members

namespace Json

/-- The word for the kind of a value in messages about values of a wrong kind. -/
def kindName : Json → String
  | .null => "NoneType"
  | .bool _ => "bool"
  | .num (.int _) => "int"
  | .num (.real _) => "float"
  | .str _ => "str"
  | .arr _ => "list"
  | .obj _ => "dict"

/-- Whether a value counts as true: `null`, `false`, zero and all that is empty do not. -/
def truthy : Json → Bool
  | .null => false
  | .bool b => b
  | .num n => !n.isZero
  | .str s => s != ""
  | .arr items => !items.isEmpty
  | .obj members => !members.isEmpty

def isNull : Json → Bool
  | .null => true
  | _ => false

def asNumber? : Json → Option Number
  | .num n => some n
  | .bool b => some (.int (if b then 1 else 0))
  | _ => none

mutual

/-- Equality of values: truth values equal the numbers one and zero, integers equal doubles of
the same value, and the order of members does not count. -/
def same : Json → Json → Bool
  | .null, .null => true
  | .bool a, b => (b.asNumber?.map (Number.same (.int (if a then 1 else 0)))).getD false
  | .num a, b => (b.asNumber?.map (Number.same a)).getD false
  | .str a, .str b => a == b
  | .arr a, .arr b => sameItems a b
  | .obj a, .obj b => a.length == b.length && sameMembers a b
  | _, _ => false

def sameItems : List Json → List Json → Bool
  | [], [] => true
  | a :: as, b :: bs => same a b && sameItems as bs
  | _, _ => false

/-- Every member has an equal value under its name in the other object. -/
def sameMembers : List (String × Json) → List (String × Json) → Bool
  | [], _ => true
  | (k, v) :: rest, other =>
    (match Members.get? other k with
      | some w => same v w
      | none => false) && sameMembers rest other

end

end Json

end LocatorHealing
