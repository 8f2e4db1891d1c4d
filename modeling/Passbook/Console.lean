/-! # Shared consoles

A console keeps its lines in memory. Handles made from one another share their lines; handles
made afresh share nothing. A line is written through a handle or through a reference to one.
-/
namespace Passbook

/-- The lines of every family of handles, and the family of each handle. -/
structure Consoles where
  buffers : List (List String)
  handles : List Nat
deriving DecidableEq, Repr

namespace Consoles

def single : Consoles := ⟨[[]], [0]⟩

/-- What takes a line: a handle, or a reference to something that takes a line. -/
inductive Outlet
  | handle (index : Nat)
  | reference (outlet : Outlet)
deriving DecidableEq, Repr

instance : Coe Nat Outlet := ⟨.handle⟩

inductive Step
  | write (outlet : Outlet) (line : String)
  | clear (handle : Nat)
  | clone (handle : Nat)
  | fresh
deriving DecidableEq, Repr

def modify (c : Consoles) (handle : Nat) (f : List String → List String) : Consoles :=
  match c.handles[handle]? with
  | some family => { c with buffers := c.buffers.modify family f }
  | none => c

/-- Writes a line; a reference hands it on to what it refers to. -/
def writeLine (c : Consoles) (line : String) : Outlet → Consoles
  | .handle handle => c.modify handle (· ++ [line])
  | .reference outlet => c.writeLine line outlet

def step (c : Consoles) : Step → Consoles
  | .write outlet line => c.writeLine line outlet
  | .clear handle => c.modify handle (fun _ => [])
  | .clone handle =>
    match c.handles[handle]? with
    | some family => { c with handles := c.handles ++ [family] }
    | none => c
  | .fresh => { buffers := c.buffers ++ [[]], handles := c.handles ++ [c.buffers.length] }

def run (c : Consoles) (steps : List Step) : Consoles := steps.foldl step c

def lines (c : Consoles) (handle : Nat) : List String :=
  match c.handles[handle]? with
  | some family => (c.buffers[family]?).getD []
  | none => []

def all (c : Consoles) : List (List String) := (List.range c.handles.length).map c.lines

end Consoles

end Passbook
