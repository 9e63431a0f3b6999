/-!
# Binding environments

An environment lists the variables that a pattern has bound, each once, in the
order in which they were bound. Two environments merge when every variable they
share has equal values; the earlier side keeps its order and its values.
-/

namespace GuardedRules

/-- Two environments bind one variable to unequal values. -/
structure MergeConflict where
  name : String
deriving DecidableEq

namespace MergeConflict

def message (conflict : MergeConflict) : String :=
  s!"Conflicting bindings for pattern variable '{conflict.name}'"

end MergeConflict

/-- The variables bound by a match with their values, in binding order. -/
structure Bindings (V : Type) where
  entries : List (String × V)
  nodup : (entries.map Prod.fst).Nodup

namespace Bindings

variable {V : Type}

@[ext]
theorem ext {l r : Bindings V} (h : l.entries = r.entries) : l = r := by
  cases l; cases r; simp_all

def empty : Bindings V := ⟨[], List.nodup_nil⟩

instance : Inhabited (Bindings V) := ⟨empty⟩

def singleton (name : String) (value : V) : Bindings V :=
  ⟨[(name, value)], by simp⟩

/-- The bound variables in binding order. -/
def names (b : Bindings V) : List String := b.entries.map Prod.fst

def get? (b : Bindings V) (name : String) : Option V := b.entries.lookup name

def contains (b : Bindings V) (name : String) : Bool := (b.get? name).isSome

def size (b : Bindings V) : Nat := b.entries.length

def isEmpty (b : Bindings V) : Bool := b.entries.isEmpty

theorem get?_eq_none_iff {b : Bindings V} {name : String} :
    b.get? name = none ↔ name ∉ b.names := by
  simp only [get?, names, List.lookup_eq_none_iff, List.mem_map, bne_iff_ne]
  exact ⟨fun h ⟨entry, mem, eq⟩ => h entry mem eq.symm, fun h entry mem eq => h ⟨entry, mem, eq.symm⟩⟩

/-- Binds one more variable, behind the others. -/
def append (b : Bindings V) (name : String) (value : V) (fresh : b.get? name = none) :
    Bindings V where
  entries := b.entries ++ [(name, value)]
  nodup := by
    have absent := get?_eq_none_iff.mp fresh
    simp only [List.map_append, List.map_cons, List.map_nil]
    refine List.nodup_append.mpr ⟨b.nodup, by simp, ?_⟩
    intro a ha c hc
    simp only [List.mem_singleton] at hc
    exact fun h => absent (hc ▸ h ▸ ha)

variable [BEq V]

/-- Adds one entry to an environment. A variable that is already bound keeps its value and
its place, provided that the new value equals it. -/
def insertAgreeing (b : Bindings V) (entry : String × V) : Except MergeConflict (Bindings V) :=
  match h : b.get? entry.1 with
  | some known => if known == entry.2 then .ok b else .error ⟨entry.1⟩
  | none => .ok (b.append entry.1 entry.2 h)

/-- The union of two environments, or the first variable of the right one on which they
disagree. -/
def merge (l r : Bindings V) : Except MergeConflict (Bindings V) :=
  r.entries.foldlM insertAgreeing l

/-- Environments are equal when they bind the same variables to equal values, in whatever
order. -/
instance : BEq (Bindings V) where
  beq l r := l.size == r.size && l.entries.all fun entry =>
    match r.get? entry.1 with
    | some value => entry.2 == value
    | none => false

end Bindings

end GuardedRules
