import LiveConfig.Environment
import LiveConfig.Log

/-!
# Merging a fresh stack into a live one

Incoming layers are taken in their order.  A standard layer is never copied, but one that is
live becomes the anchor of those that follow.  A layer that is live is replaced where it stands
and becomes the anchor too.  A new layer goes right after the anchor; without an anchor yet it
goes right before the default anchor, or last if that is not live.
-/

namespace LiveConfig

/-- The names that steer a merge: those never merged, and the catch-all new layers stay above. -/
structure MergeRules where
  standard : List Text
  anchor : Text

namespace MergeRules

/-- The rules used when nothing else is asked for. -/
def usual : MergeRules :=
  ⟨standardLayers, Names.defaultProperties⟩

end MergeRules

/-- What a merge did, by layer name and in order. -/
structure MergeReport where
  replaced : List Text
  added : List Text
  skipped : List Text

namespace MergeReport

def empty : MergeReport := ⟨[], [], []⟩

def noteReplaced (r : MergeReport) (name : Text) : MergeReport :=
  { r with replaced := r.replaced ++ [name] }

def noteAdded (r : MergeReport) (name : Text) : MergeReport :=
  { r with added := r.added ++ [name] }

def noteSkipped (r : MergeReport) (name : Text) : MergeReport :=
  { r with skipped := r.skipped ++ [name] }

/-- The report as shown in log records. -/
def text (r : MergeReport) : String :=
  "replaced=" ++ Text.quotedList r.replaced ++ " added=" ++ Text.quotedList r.added ++
    " skipped=" ++ Text.quotedList r.skipped

end MergeReport

/-- A merge under way: the live stack, the name matched last, and what has been done. -/
structure Merging where
  live : LayerStack
  matched : Option Text
  report : MergeReport

namespace Merging

def start (live : LayerStack) : Merging :=
  ⟨live, none, MergeReport.empty⟩

/-- Takes one incoming layer. -/
def step (rules : MergeRules) (m : Merging) (layer : Layer) : Traced Merging := do
  let name := layer.name
  let matched := if m.live.contains name then some name else m.matched
  if rules.standard.contains name then
    return { m with matched := matched, report := m.report.noteSkipped name }
  else if m.live.contains name then
    let (live, _) ← Traced.ofExcept (m.live.replace name layer)
    Traced.record .debug .merging ("Replaced layer " ++ name)
    return ⟨live, matched, m.report.noteReplaced name⟩
  else
    match matched with
    | some anchor =>
      let live ← Traced.ofExcept (m.live.addAfter anchor layer)
      Traced.record .debug .merging ("Added layer " ++ name ++ " after " ++ anchor)
      return ⟨live, matched, m.report.noteAdded name⟩
    | none =>
      if m.live.contains rules.anchor then
        let live ← Traced.ofExcept (m.live.addBefore rules.anchor layer)
        Traced.record .debug .merging ("Added layer " ++ name ++ " before " ++ rules.anchor)
        return ⟨live, matched, m.report.noteAdded name⟩
      else
        let live ← Traced.ofExcept (m.live.addLast layer)
        Traced.record .debug .merging ("Added layer " ++ name ++ " last")
        return ⟨live, matched, m.report.noteAdded name⟩

/-- Takes incoming layers one after another. -/
def steps (rules : MergeRules) : Merging → List Layer → Traced Merging
  | m, [] => Traced.pure m
  | m, layer :: rest => do
    let m ← m.step rules layer
    steps rules m rest

end Merging

/-- Merges incoming layers into a live stack. -/
def merge (rules : MergeRules) (live : LayerStack) (incoming : List Layer) :
    Traced (LayerStack × MergeReport) := do
  let m ← (Merging.start live).steps rules incoming
  return (m.live, m.report)

end LiveConfig
