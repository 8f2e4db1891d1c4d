/-! # Placeholders

A placeholder is a dollar sign and a name in braces. In one pass from left to right each
placeholder gives way to the value that the environment has for its name; one without a value
stays as it is. What was put in is not looked at again.
-/
namespace Passbook

abbrev Environment := String → Option String

namespace Placeholder

def written (name : List Char) : List Char := '$' :: '{' :: (name ++ ['}'])

/-- The name in the placeholder at the front of a text: all up to the first closing brace, and
not empty. -/
def nameAt? : List Char → Option (List Char)
  | '$' :: '{' :: cs =>
    let name := cs.takeWhile (· != '}')
    if name.isEmpty || name.length == cs.length then none else some name
  | _ => none

def value (env : Environment) (name : List Char) : List Char :=
  match env (String.ofList name) with
  | some v => v.toList
  | none => written name

/-- Substitution in a text after its first `skip` characters. -/
def substituteFrom (env : Environment) : Nat → List Char → List Char
  | _, [] => []
  | skip + 1, _ :: cs => substituteFrom env skip cs
  | 0, c :: cs =>
    match nameAt? (c :: cs) with
    | some name => value env name ++ substituteFrom env (name.length + 2) cs
    | none => c :: substituteFrom env 0 cs

def substitute (env : Environment) (s : String) : String :=
  String.ofList (substituteFrom env 0 s.toList)

def namesFrom : Nat → List Char → List String
  | _, [] => []
  | skip + 1, _ :: cs => namesFrom skip cs
  | 0, c :: cs =>
    match nameAt? (c :: cs) with
    | some name => String.ofList name :: namesFrom (name.length + 2) cs
    | none => namesFrom 0 cs

theorem substituteFrom_drop (env : Environment) (skip : Nat) (cs : List Char) :
    substituteFrom env skip cs = substituteFrom env 0 (cs.drop skip) := by
  induction cs generalizing skip with
  | nil => cases skip <;> simp [substituteFrom]
  | cons c cs ih =>
    cases skip with
    | zero => rfl
    | succ skip => rw [substituteFrom, List.drop_succ_cons, ih]

end Placeholder

end Passbook
