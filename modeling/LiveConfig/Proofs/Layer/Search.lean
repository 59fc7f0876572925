import LiveConfig.Environment
import LiveConfig.Proofs.Layer.Tree

/-!
# Lookups as one search

A lookup descends into layers, and `Layer.find?` and `Layer.holds` do so each in its own way.  Here
a list of trees is first laid out flat, from left to right: as the leaves that a lookup comes by and
the points where a listing of children breaks off (`SearchPoint`).  The search of this list for a
key ends at the first point that does not report the key as absent (`Layer.search?`).

**Results.**
* `Layer.find?_eq_settle`, `Layer.holds_eq_map_isSome`: both descents come to what the search finds.
* `Layer.pointsIn_eq_of_unfolds`: a composite can be replaced by its children.
* `Layer.lookups_decided_by_search`: the four lookups, of layers and of environments.
-/

namespace LiveConfig

/-- A point that a lookup comes by. -/
inductive SearchPoint
  | leaf (entries : Entries) (faults : ReadFaults)
  /-- The end of a listing of children that fails. -/
  | breakOff (failure : Failure)

namespace SearchPoint

/-- The value or the failure that a point has for a key, unless it reports the key as absent. -/
def verdict? (key : Value) : SearchPoint → Option (Except Failure Value)
  | leaf entries faults =>
    match Layer.readKey entries faults key with
    | .ok none => none
    | .ok (some v) => some (.ok v)
    | .error failure => some (.error failure)
  | breakOff failure => some (.error failure)

end SearchPoint

namespace Layer

mutual

/-- The points of a tree, depth first from the first child to the last. -/
def points : Layer → List SearchPoint
  | mapping _ entries faults => [.leaf entries faults]
  | lookup _ entries faults => [.leaf entries faults]
  | composite _ children none => pointsIn children
  | composite _ children (some fault) =>
    pointsUpTo fault.after children ++ [.breakOff fault.failure]

/-- The points of some trees from the first to the last. -/
def pointsIn : List Layer → List SearchPoint
  | [] => []
  | child :: rest => points child ++ pointsIn rest

/-- The points of the first `n` trees. -/
def pointsUpTo : Nat → List Layer → List SearchPoint
  | _, [] => []
  | 0, _ :: _ => []
  | n + 1, child :: rest => points child ++ pointsUpTo n rest

end

/-- The verdict of the first point of some trees that does not report a key as absent. -/
def search? (key : Value) (layers : List Layer) : Option (Except Failure Value) :=
  (pointsIn layers).findSome? (SearchPoint.verdict? key)

/-! ## Points of lists -/

theorem pointsIn_append (layers layers' : List Layer) :
    pointsIn (layers ++ layers') = pointsIn layers ++ pointsIn layers' := by
  induction layers with
  | nil => rfl
  | cons layer rest ih =>
    rw [List.cons_append, pointsIn, pointsIn, ih, List.append_assoc]

theorem pointsIn_singleton (layer : Layer) : pointsIn [layer] = layer.points := by
  rw [pointsIn, pointsIn, List.append_nil]

/-- A listing that fails after `n` children has yielded the first `n`. -/
theorem pointsUpTo_eq_take (n : Nat) (layers : List Layer) :
    pointsUpTo n layers = pointsIn (layers.take n) := by
  induction layers generalizing n with
  | nil =>
    rw [List.take_nil]
    cases n <;> rfl
  | cons layer rest ih =>
    cases n with
    | zero => rfl
    | succ n => rw [pointsUpTo, List.take_succ_cons, pointsIn, ih]

/-! ## Both descents are the search -/

/-- What a descent reports for a verdict. -/
def settle : Option (Except Failure Value) → Except Failure (Option Value)
  | none => .ok none
  | some (.ok v) => .ok (some v)
  | some (.error failure) => .error failure

variable {key : Value}

theorem readKey_eq_settle (entries : Entries) (faults : ReadFaults) :
    readKey entries faults key = settle ((SearchPoint.leaf entries faults).verdict? key) := by
  rw [SearchPoint.verdict?]
  split
  · assumption
  · assumption
  · assumption

/-- A search goes on behind some points if all of them report the key as absent. -/
theorem settle_append (points points' : List SearchPoint) :
    settle ((points ++ points').findSome? (SearchPoint.verdict? key)) =
      match settle (points.findSome? (SearchPoint.verdict? key)) with
      | .ok none => settle (points'.findSome? (SearchPoint.verdict? key))
      | other => other := by
  rw [List.findSome?_append]
  rcases points.findSome? (SearchPoint.verdict? key) with - | (failure | v)
  · rw [Option.none_or]
    rfl
  · rfl
  · rfl

mutual

/-- Looking a key up in one tree comes to what the search finds. -/
theorem find?_eq_settle :
    ∀ layer : Layer,
      layer.find? key = settle (layer.points.findSome? (SearchPoint.verdict? key))
  | mapping _ entries faults => by
    rw [find?, readKey_eq_settle, points, List.findSome?_singleton]
  | lookup _ entries faults => by
    rw [find?, readKey_eq_settle, points, List.findSome?_singleton]
  | composite _ children none => by
    rw [find?, points]
    exact findIn?_eq_settle children
  | composite _ children (some fault) => by
    have hchildren := findUpTo?_eq_settle fault.after children
    -- behind the children that were yielded there is only the point where the listing breaks off
    rw [find?, points, settle_append, ← hchildren]
    rfl

theorem findIn?_eq_settle :
    ∀ layers : List Layer,
      findIn? key layers = settle ((pointsIn layers).findSome? (SearchPoint.verdict? key))
  | [] => rfl
  | child :: rest => by
    rw [pointsIn, settle_append, ← find?_eq_settle child, ← findIn?_eq_settle rest]
    rfl

theorem findUpTo?_eq_settle :
    ∀ (n : Nat) (layers : List Layer),
      findUpTo? key n layers = settle ((pointsUpTo n layers).findSome? (SearchPoint.verdict? key))
  | 0, [] => rfl
  | _ + 1, [] => rfl
  | 0, _ :: _ => rfl
  | n + 1, child :: rest => by
    rw [pointsUpTo, settle_append, ← find?_eq_settle child, ← findUpTo?_eq_settle n rest]
    rfl

end

/-- Whether something was found decides whether the next place is asked. -/
theorem map_isSome_match (first next : Except Failure (Option Value)) :
    (match first.map Option.isSome with
      | .ok false => next.map Option.isSome
      | other => other) =
      (match first with
        | .ok none => next
        | other => other).map Option.isSome := by
  rcases first with failure | (- | v)
  · rfl
  · rfl
  · rfl

mutual

/-- A layer holds a key if looking it up finds something, and the two fail alike. -/
theorem holds_eq_map_isSome :
    ∀ layer : Layer, layer.holds key = (layer.find? key).map Option.isSome
  | mapping _ _ _ => by rw [holds, find?]
  | lookup _ _ _ => by rw [holds, find?]
  | composite _ children none => by
    rw [holds, find?]
    exact holdsAny_eq_map_isSome children
  | composite _ children (some fault) => by
    rw [holds, find?, holdsAnyUpTo_eq_map_isSome fault.after children]
    exact map_isSome_match _ (.error fault.failure)

theorem holdsAny_eq_map_isSome :
    ∀ layers : List Layer, holdsAny key layers = (findIn? key layers).map Option.isSome
  | [] => rfl
  | child :: rest => by
    rw [holdsAny, findIn?, holds_eq_map_isSome child, holdsAny_eq_map_isSome rest]
    exact map_isSome_match _ _

theorem holdsAnyUpTo_eq_map_isSome :
    ∀ (n : Nat) (layers : List Layer),
      holdsAnyUpTo key n layers = (findUpTo? key n layers).map Option.isSome
  | 0, [] => rfl
  | _ + 1, [] => rfl
  | 0, _ :: _ => rfl
  | n + 1, child :: rest => by
    rw [holdsAnyUpTo, findUpTo?, holds_eq_map_isSome child, holdsAnyUpTo_eq_map_isSome n rest]
    exact map_isSome_match _ _

end

/-! ## Composites and their children -/

/--
One composite whose children can be listed is replaced by its children, in a list of trees or at any
depth.  A listing around it that fails yields the children in place of the composite.
-/
inductive Unfolds : List Layer → List Layer → Prop
  | here (before : List Layer) (name : Text) (children after : List Layer) :
    Unfolds (before ++ ofChildren name children :: after) (before ++ (children ++ after))
  | inside
      (before : List Layer) (name : Text) {children children' : List Layer} (after : List Layer)
      (h : Unfolds children children') :
    Unfolds (before ++ composite name children none :: after)
      (before ++ composite name children' none :: after)
  | insideFailing
      (before : List Layer) (name : Text) {children children' : List Layer} (n n' : Nat)
      (failure : Failure) (after : List Layer)
      (h : Unfolds (children.take n) (children'.take n')) :
    Unfolds (before ++ composite name children (some ⟨n, failure⟩) :: after)
      (before ++ composite name children' (some ⟨n', failure⟩) :: after)

/-- A lookup comes by the same points whether it finds a composite or its children. -/
theorem pointsIn_eq_of_unfolds
    {layers layers' : List Layer} (h : Unfolds layers layers') :
    pointsIn layers = pointsIn layers' := by
  induction h with
  | here before name children after =>
    rw [pointsIn_append, pointsIn_append, pointsIn_append, pointsIn, ofChildren, points]
  | inside before name after _ ih =>
    rw [pointsIn_append, pointsIn_append, pointsIn, pointsIn, points, points, ih]
  | insideFailing before name n n' failure after _ ih =>
    rw [pointsIn_append, pointsIn_append, pointsIn, pointsIn, points, points, pointsUpTo_eq_take,
      pointsUpTo_eq_take, ih]

theorem search?_eq_of_unfolds
    {layers layers' : List Layer} (h : Unfolds layers layers') :
    search? key layers = search? key layers' :=
  congrArg (List.findSome? (SearchPoint.verdict? key)) (pointsIn_eq_of_unfolds h)

/-! ## The four lookups -/

/-- What a lookup with a default gives for a verdict. -/
def valueOf (default : Value) : Option (Except Failure Value) → Except Failure Value
  | none => .ok default
  | some (.ok v) => .ok v
  | some (.error failure) => .error failure

/-- What asking for a key gives for a verdict. -/
def presenceOf : Option (Except Failure Value) → Except Failure Bool
  | none => .ok false
  | some (.ok _) => .ok true
  | some (.error failure) => .error failure

theorem map_getD_settle (default : Value) (verdict : Option (Except Failure Value)) :
    (settle verdict).map (fun found => found.getD default) = valueOf default verdict := by
  rcases verdict with - | (failure | v)
  · rfl
  · rfl
  · rfl

theorem map_isSome_settle (verdict : Option (Except Failure Value)) :
    (settle verdict).map Option.isSome = presenceOf verdict := by
  rcases verdict with - | (failure | v)
  · rfl
  · rfl
  · rfl

theorem get_eq_valueOf (layer : Layer) (default : Value) :
    layer.get key default = valueOf default (search? key [layer]) := by
  rw [get, find?_eq_settle, map_getD_settle, search?, pointsIn_singleton]

theorem holds_eq_presenceOf (layer : Layer) :
    layer.holds key = presenceOf (search? key [layer]) := by
  rw [holds_eq_map_isSome, find?_eq_settle, map_isSome_settle, search?, pointsIn_singleton]

end Layer

namespace Environment

variable {key : Value}

theorem get_eq_valueOf (env : Environment) (default : Value) :
    env.get key default = Layer.valueOf default (Layer.search? key env.stack.layers) := by
  rw [get, find?, Layer.findIn?_eq_settle, Layer.map_getD_settle, Layer.search?]

theorem holds_eq_presenceOf (env : Environment) :
    env.holds key = Layer.presenceOf (Layer.search? key env.stack.layers) := by
  rw [holds, find?, Layer.findIn?_eq_settle, Layer.map_isSome_settle, Layer.search?]

end Environment

/--
**All lookups are one search.**  What the value and the presence of a key come to, in a layer and in
an environment, is decided by the first point of the flat list that does not report the key as
absent.  A composite whose children can be listed may be replaced by its children at any place.
-/
theorem Layer.lookups_decided_by_search (key default : Value) :
    (∀ layer : Layer,
      layer.get key default = valueOf default (search? key [layer]) ∧
        layer.holds key = presenceOf (search? key [layer])) ∧
    (∀ env : Environment,
      env.get key default = valueOf default (search? key env.stack.layers) ∧
        env.holds key = presenceOf (search? key env.stack.layers)) ∧
    (∀ (name : Text) (layers : List Layer),
      search? key [ofChildren name layers] = search? key layers) ∧
    (∀ layer layer' : Layer, Unfolds [layer] [layer'] →
      layer.get key default = layer'.get key default ∧ layer.holds key = layer'.holds key) ∧
    ∀ env env' : Environment, Unfolds env.stack.layers env'.stack.layers →
      env.get key default = env'.get key default ∧ env.holds key = env'.holds key := by
  refine ⟨fun layer => ⟨get_eq_valueOf layer default, holds_eq_presenceOf layer⟩,
    fun env => ⟨env.get_eq_valueOf default, env.holds_eq_presenceOf⟩, fun name layers => ?_,
    fun layer layer' h => ?_, fun env env' h => ?_⟩
  · have hunfolds := Unfolds.here [] name layers []
    rw [List.append_nil] at hunfolds
    exact search?_eq_of_unfolds hunfolds
  · rw [get_eq_valueOf, get_eq_valueOf, holds_eq_presenceOf, holds_eq_presenceOf,
      search?_eq_of_unfolds h]
    exact ⟨rfl, rfl⟩
  · rw [env.get_eq_valueOf, env'.get_eq_valueOf, env.holds_eq_presenceOf, env'.holds_eq_presenceOf,
      search?_eq_of_unfolds h]
    exact ⟨rfl, rfl⟩

namespace Layer

/-- The key that the example looks up. -/
def exampleKey : Value :=
  .str ⟨[.char 'k']⟩

/-- A layer that must not be asked, since asking it interrupts. -/
def exampleLast : Layer :=
  mapping ⟨[.char 'd']⟩ Table.empty ⟨[(exampleKey, .raised .interrupt ⟨[]⟩)], none⟩

/-- A lookup that reports the key as absent. -/
def exampleFirst : Layer :=
  lookup ⟨[.char 'l']⟩ Table.empty ⟨[(exampleKey, .raised .key ⟨[]⟩)], none⟩

/-- Two mappings, the second of which holds the key with a null value. -/
def exampleChildren : List Layer :=
  [ofEntries ⟨[.char 'a']⟩ Table.empty,
    ofEntries ⟨[.char 'b']⟩ (Table.ofList [(exampleKey, .null)])]

/-- A null value between a lookup without the key and a layer that interrupts is found. -/
theorem lookups_decided_by_search_example :
    let nested := ofChildren ⟨[]⟩
      ([exampleFirst] ++ ofChildren ⟨[.char 'c']⟩ exampleChildren :: [exampleLast])
    let unfolded := ofChildren ⟨[]⟩ ([exampleFirst] ++ (exampleChildren ++ [exampleLast]))
    Unfolds [nested] [unfolded] ∧
      nested.get exampleKey (.bool false) = .ok .null ∧ nested.holds exampleKey = .ok true ∧
      unfolded.get exampleKey (.bool false) = .ok .null ∧
      unfolded.holds exampleKey = .ok true := by
  intro nested unfolded
  obtain ⟨hlayer, -, -, hreplace, -⟩ := lookups_decided_by_search exampleKey (.bool false)
  have hunfolds : Unfolds [nested] [unfolded] :=
    .inside [] _ [] (.here [exampleFirst] _ exampleChildren [exampleLast])
  have hget : nested.get exampleKey (.bool false) = .ok .null := (hlayer nested).1.trans rfl
  have hholds : nested.holds exampleKey = .ok true := (hlayer nested).2.trans rfl
  obtain ⟨hsame, hsame'⟩ := hreplace nested unfolded hunfolds
  exact ⟨hunfolds, hget, hholds, hsame ▸ hget, hsame' ▸ hholds⟩

end Layer

end LiveConfig
