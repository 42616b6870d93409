set_option autoImplicit false
set_option relaxedAutoImplicit false

/-!
Text inside the string literals of a script: escaping it so that it can stand between quotes of
either kind, undoing the escaping, and reading a literal back.
-/

namespace LocatorHealing.ScriptLiteral

/-- A backslash goes before a backslash and before either quote. -/
def escapeChar (c : Char) : List Char :=
  if c = '\\' ∨ c = '\'' ∨ c = '"' then ['\\', c] else [c]

def escapeChars (s : List Char) : List Char :=
  s.flatMap escapeChar

def escape (s : String) : String :=
  String.ofList (escapeChars s.toList)

def unescapeChars : List Char → List Char
  | [] => []
  | c :: s =>
    if c = '\\' then
      match s with
      | [] => []
      | d :: s' => d :: unescapeChars s'
    else c :: unescapeChars s

def unescape (s : String) : String :=
  String.ofList (unescapeChars s.toList)

/-- The inside of a literal up to its closing quote `q`: the text it denotes and what follows
the quote. A backslash is read together with a backslash or a quote after it, and a raw line
break ends the reading without a literal. -/
def readBody (q : Char) : List Char → Option (List Char × List Char)
  | [] => none
  | c :: s =>
    if c = '\\' then
      match s with
      | [] => none
      | d :: s' =>
        if d = '\\' ∨ d = '\'' ∨ d = '"' then
          (readBody q s').map fun r => (d :: r.1, r.2)
        else (readBody q (d :: s')).map fun r => (c :: r.1, r.2)
    else if c = q then some ([], s)
    else if c = '\n' ∨ c = '\r' then none
    else (readBody q s).map fun r => (c :: r.1, r.2)

/-- Read a literal between quotes `q`: the text it denotes and what follows it. -/
def read (q : Char) : List Char → Option (List Char × List Char)
  | [] => none
  | c :: s => if c = q then readBody q s else none

@[simp] theorem escapeChars_nil : escapeChars [] = [] := rfl

@[simp] theorem escapeChars_cons (c : Char) (s : List Char) :
    escapeChars (c :: s) = escapeChar c ++ escapeChars s := rfl

private theorem unescapeChars_escapeChars (s : List Char) : unescapeChars (escapeChars s) = s := by
  induction s with
  | nil => rfl
  | cons c s ih =>
    by_cases h : c = '\\' ∨ c = '\'' ∨ c = '"'
    · rw [escapeChars_cons, escapeChar, if_pos h]
      simp [unescapeChars, ih]
    · have hc : c ≠ '\\' := fun e => h (Or.inl e)
      rw [escapeChars_cons, escapeChar, if_neg h, List.singleton_append, unescapeChars.eq_def]
      simp only [hc, if_false, ih]

theorem unescape_escape (s : String) : unescape (escape s) = s := by
  rw [unescape, escape, String.toList_ofList, unescapeChars_escapeChars, String.ofList_toList]

end LocatorHealing.ScriptLiteral
