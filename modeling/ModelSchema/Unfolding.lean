import ModelSchema.Value

/-!
The parts of values that hold themselves.

A part of such a value can refer to a container around it, and then it means nothing on its own.
`Value.unfoldedPart` is the part as a value of its own: what it refers to is repeated inside of it,
once on every way inwards.
-/

namespace ModelSchema

namespace Value

/-- The values inside of a container. -/
def children : Value → List Value
  | .collection _ items => items
  | .dict entries => entries.map (·.2)
  | _ => []

/-- The container with other values inside of it. -/
def withChildren (value : Value) (children : List Value) : Value :=
  match value with
  | .collection kind _ => .collection kind children
  | .dict entries => .dict ((entries.map (·.1)).zip children)
  | value => value

/-- The value at the end of a path, which is given by the positions of the values on it. -/
def atPath? (value : Value) : List Nat → Option Value
  | [] => some value
  | place :: places => value.children[place]?.bind (atPath? · places)

/-- The path of the container that a value inside of another container stands for, or else its own
path. -/
def targetPath (places : List Nat) (place : Nat) : Value → List Nat
  | .enclosing levels _ => places.take (places.length - levels)
  | _ => places ++ [place]

/-- The container at a path, as a value of its own. `around` has the paths of the containers that
are repeated around it, the nearest first. -/
def unfolded (root : Value) : Nat → List (List Nat) → List Nat → Value
  | 0, _, _ => .null
  | fuel + 1, around, places =>
    match root.atPath? places with
    | none => .null
    | some value =>
      let around := places :: around
      let numbered := value.children.zip (List.range value.children.length)
      let children := numbered.map fun (child, place) =>
        let target := targetPath places place child
        match around.findIdx? (· = target) with
        | some levels => .enclosing levels ((root.atPath? target).any (· matches .dict _))
        | none => unfolded root fuel around target
      value.withChildren children

/-- The value at a place in a container, as a value of its own. -/
def unfoldedPart (container : Value) (place : Nat) (part : Value) : Value :=
  if part.isEndless then
    container.unfolded (container.nodeCount + 1) [] (targetPath [] place part)
  else part

/-- The values inside of a container, each as a value of its own. -/
def unfoldedChildren (container : Value) : List Value :=
  (container.children.zip (List.range container.children.length)).map fun (child, place) =>
    container.unfoldedPart place child

end Value

end ModelSchema
