import Slideshow.Playback.Command
import Slideshow.Proofs.Playback.Firing

set_option autoImplicit false

namespace Slideshow

structure Renaming where
  of : ReferenceKind → String → String
  injective : ∀ kind, Function.Injective (of kind)

def Action.renamed (action : Action) (σ : Renaming) : Action :=
  match action with
  | .navigateToSlide target => .navigateToSlide (σ.of .slide target)
  | .setVariable target operation operand => .setVariable (σ.of .variable target) operation operand
  | .showLayer target => .showLayer (σ.of .layer target)
  | .hideLayer target => .hideLayer (σ.of .layer target)

def Trigger.renamed (trigger : Trigger) (σ : Renaming) : Trigger :=
  { trigger with
    target := trigger.target.map (σ.of .object)
    actions := trigger.actions.map (·.renamed σ) }

def SlideObject.renamed (object : SlideObject) (σ : Renaming) : SlideObject :=
  { object with id := σ.of .object object.id, triggers := object.triggers.map (·.renamed σ) }

def Layer.renamed (layer : Layer) (σ : Renaming) : Layer :=
  { layer with id := σ.of .layer layer.id, objects := layer.objects.map (·.renamed σ) }

def Slide.renamed (slide : Slide) (σ : Renaming) : Slide :=
  { slide with id := σ.of .slide slide.id, layers := slide.layers.map (·.renamed σ) }

def Variable.renamed (v : Variable) (σ : Renaming) : Variable :=
  { v with id := σ.of .variable v.id }

def Project.renamed (project : Project) (σ : Renaming) : Project :=
  { project with
    slides := project.slides.map (·.renamed σ)
    declarations := project.declarations.map (·.renamed σ) }

-- The first slide is where a session starts. The others, and the variables, may stand in any order.
structure Project.Reorders (project other : Project) : Prop where
  id : other.id = project.id
  name : other.name = project.name
  first : other.slides.head? = project.slides.head?
  others : other.slides.tail.Perm project.slides.tail
  declarations : other.declarations.Perm project.declarations

def Phase.renamed (phase : Phase) (σ : Renaming) : Phase :=
  match phase with
  | .idle => .idle
  | .active slide => .active (σ.of .slide slide)
  | .navigating slide => .navigating (σ.of .slide slide)

def Fault.renamed (fault : Fault) (σ : Renaming) : Fault :=
  match fault with
  | .danglingReference trigger kind id => .danglingReference trigger kind (σ.of kind id)
  | .typeMismatch trigger target cause => .typeMismatch trigger (σ.of .variable target) cause
  | .stepLimitExceeded limit => .stepLimitExceeded limit

def Event.renamed (event : Event) (σ : Renaming) : Event :=
  match event with
  | .variableChanged id old new => .variableChanged (σ.of .variable id) old new
  | .layerChanged id visible => .layerChanged (σ.of .layer id) visible
  | .slideChanged left entered => .slideChanged (left.map (σ.of .slide)) (σ.of .slide entered)
  | .fault reported => .fault (reported.renamed σ)

def Failure.renamed (failure : Failure) (σ : Renaming) : Failure :=
  match failure with
  | .dangling kind id => .dangling kind (σ.of kind id)
  | other => other

def Reply.renamed (reply : Reply) (σ : Renaming) : Reply :=
  match reply with
  | .done => .done
  | .fired triggers => .fired triggers
  | .hit object => .hit (object.map (σ.of .object))
  | .faults reported => .faults (reported.map (·.renamed σ))

section Slide

variable (σ : Renaming) (slide : Slide)

theorem fires_like_renamed : (slide.renamed σ).FiresLike slide :=
  fires_like_map (·.renamed σ) (·.renamed σ) (fun _ => rfl)
    (fun object => by simp [SlideObject.FiresLike, SlideObject.renamed, Trigger.renamed]) slide _ rfl

theorem locate_renamed (id : String) :
    (slide.renamed σ).locate? (σ.of .object id) = slide.locate? id := by
  simp only [Slide.locate?, Slide.renamed, Layer.renamed, SlideObject.renamed, List.zipIdx_map,
    List.findSome?_map, Function.comp_def, Prod.map, id_eq, List.findIdx?_map, (σ.injective _).eq_iff]

theorem last_indexed_renamed (objects : List SlideObject) (point : Point) :
    lastIndexed? (·.isAt point) (objects.map (·.renamed σ)) =
      (lastIndexed? (·.isAt point) objects).map fun found => (found.1.renamed σ, found.2) := by
  simp only [lastIndexed?, List.zipIdx_map, ← List.map_reverse, List.find?_map]
  rfl

theorem hit_among_renamed (shown shownToo : Layer → Bool) (point : Point)
    (same : ∀ layer, shownToo (layer.renamed σ) = shown layer) (layers : List (Layer × Nat)) :
    Slide.hitAmong? shownToo point (layers.map fun numbered => (numbered.1.renamed σ, numbered.2)) =
      (Slide.hitAmong? shown point layers).map fun hit => (hit.1, hit.2.renamed σ) := by
  induction layers with
  | nil => rfl
  | cons numbered rest ih =>
      obtain ⟨layer, i⟩ := numbered
      simp only [List.map_cons, Slide.hitAmong?, same, ih]
      split
      · simp only [Layer.renamed, last_indexed_renamed]
        cases lastIndexed? (·.isAt point) layer.objects <;> rfl
      · rfl

theorem hit_test_renamed (shown shownToo : Layer → Bool) (point : Point)
    (same : ∀ layer, shownToo (layer.renamed σ) = shown layer) :
    (slide.renamed σ).hitTest? shownToo point =
      (slide.hitTest? shown point).map fun hit => (hit.1, hit.2.renamed σ) := by
  have layers : (slide.renamed σ).layers.zipIdx.reverse =
      slide.layers.zipIdx.reverse.map fun numbered => (numbered.1.renamed σ, numbered.2) := by
    simp only [Slide.renamed, List.zipIdx_map, List.map_reverse]
    rfl
  rw [Slide.hitTest?, Slide.hitTest?, layers, hit_among_renamed σ shown shownToo point same]

end Slide

end Slideshow
