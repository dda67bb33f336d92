import Mcps.Lib.Json

/-!
# Positions in a JSON document

A position is given by the keys and indices that lead to it from the root.  What stands at
a position, apart from what is below it, is its label: a leaf is its own label, and the
labels at all positions are the whole document.
-/

namespace Json

variable {ν : Type}

inductive Step where
  | key (name : String)
  | index (place : Nat)
  deriving DecidableEq, Repr

/-- The value one step below. -/
def child : Step → Json ν → Option (Json ν)
  | .key name, tree => tree.get name
  | .index place, .array items => items[place]?
  | .index _, _ => none

def lookup : List Step → Json ν → Option (Json ν)
  | [], tree => some tree
  | step :: path, tree => (child step tree).bind (lookup path)

/-- A value without what is below it. -/
def label : Json ν → Json ν
  | .array items => .array (List.replicate items.length .null)
  | .object _ => .object []
  | leaf => leaf

@[simp] theorem lookup_nil (tree : Json ν) : lookup [] tree = some tree := rfl

theorem lookup_cons (step : Step) (path : List Step) (tree : Json ν) :
    lookup (step :: path) tree = (child step tree).bind (lookup path) := rfl

theorem lookup_append (above below : List Step) (tree : Json ν) :
    lookup (above ++ below) tree = (lookup above tree).bind (lookup below) := by
  induction above generalizing tree with
  | nil => rfl
  | cons step above ih =>
    rw [List.cons_append, lookup_cons, lookup_cons, Option.bind_assoc]
    congr 1
    funext value
    exact ih value

theorem child_object_insert (lt : String → String → Prop) [DecidableRel lt] (key : String)
    (value : Json ν) (members : List (String × Json ν)) (step : Step) :
    child step (object (Assoc.insert lt key value members)) =
      if step = .key key then some value else child step (object members) := by
  cases step with
  | index place => rfl
  | key name =>
    by_cases same : name = key
    · subst same
      simp [child]
    · rw [if_neg (by simpa using same)]
      exact Assoc.find?_insert_ne lt same value members

theorem Everywhere.root {property : Json ν → Prop} {tree : Json ν}
    (holds : tree.Everywhere property) : property tree := by
  cases tree with
  | array items => exact (everywhere_array.mp holds).1
  | object members => exact (everywhere_object.mp holds).1
  | _ => exact holds

theorem Everywhere.lookup {property : Json ν → Prop} {tree value : Json ν}
    (holds : tree.Everywhere property) {path : List Step} (found : tree.lookup path = some value) :
    value.Everywhere property := by
  induction path generalizing tree with
  | nil =>
    cases found
    exact holds
  | cons step path ih =>
    obtain ⟨_, held, found⟩ := Option.bind_eq_some_iff.mp found
    refine ih ?_ found
    cases step with
    | key name =>
      obtain ⟨_, rfl, member⟩ := get_eq_some held
      exact (everywhere_object.mp holds).2 _ (Assoc.mem_of_find? member)
    | index place =>
      cases tree with
      | array items => exact (everywhere_array.mp holds).2 _ (List.mem_of_getElem? held)
      | _ => cases held

end Json
