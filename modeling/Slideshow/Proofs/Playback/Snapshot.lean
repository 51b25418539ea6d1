import Slideshow.Playback.Snapshot
import Slideshow.Proofs.Document.Places
import Slideshow.Proofs.IdMap

set_option autoImplicit false

namespace Slideshow

namespace Phase

def word : Phase → String
  | .idle => "idle"
  | .active _ => "slideActive"
  | .navigating _ => "navigating"

def slide? : Phase → Option String
  | .idle => none
  | .active slide | .navigating slide => some slide

end Phase

def Snapshot.seen (snapshot : Snapshot) (names : List String) : Option Json.Outline :=
  (Json.Outline.ofSource (.ofString snapshot.text)).1.walk? (names.map .member)

theorem Snapshot.seen_eq (snapshot : Snapshot) (names : List String) :
    snapshot.seen names = (snapshot.toJson.walk? (names.map .member)).map Json.outline := by
  rw [seen, text, Json.outline_written, Json.outline_walk]

theorem snapshot_walked (snapshot : Snapshot) :
    snapshot.toJson.walk? [.member "state"] = some snapshot.phase.toJson ∧
      snapshot.toJson.walk? [.member "currentSlideId"] = snapshot.currentSlideId.map .text ∧
      snapshot.toJson.walk? [.member "variables"] = some snapshot.store.toJson ∧
      snapshot.toJson.walk? [.member "layers"] = some snapshot.layers.toJson := by
  cases current : snapshot.currentSlideId <;>
    simp [Snapshot.toJson, current, optionalMember, Json.walk?, Json.step?, List.lookup_cons]

theorem Snapshot.seen_within (snapshot : Snapshot) (name inner : String) (node : Json)
    (reached : snapshot.toJson.walk? [.member name] = some node) :
    snapshot.seen [name, inner] = (node.walk? [.member inner]).map Json.outline := by
  rw [seen_eq]
  exact congrArg (Option.map Json.outline) (Json.walk_through [.member inner] reached)

theorem phase_walked (phase : Phase) :
    phase.toJson.walk? [.member "state"] = some (.text phase.word) ∧
      phase.toJson.walk? [.member "slideId"] = phase.slide?.map .text := by
  cases phase <;> exact ⟨rfl, rfl⟩

theorem map_walked {α : Type} (map : IdMap α) (toJson : α → Json) (id : String) :
    (Json.object (map.entries.map fun (id, value) => (id, toJson value))).walk? [.member id] =
      (map.get? id).map toJson := by
  have found := IdMap.lookup_map (fun entry => toJson entry.2) id map.entries
  simpa [Json.walk?, Json.step?, IdMap.get?] using found

theorem store_walked (store : VariableStore) (id : String) :
    store.toJson.walk? [.member id] =
      (store.entry? id).map fun value => (value.map Value.toJson).getD .null :=
  map_walked store.values (fun value => (value.map Value.toJson).getD .null) id

theorem layers_walked (layers : LayerState) (id : String) :
    layers.toJson.walk? [.member id] = (layers.isVisible? id).map .bool :=
  map_walked layers.visibility .bool id

theorem player_seen (player : Player) :
    player.snapshot.seen ["state", "state"] = some (.text (.ok player.phase.word)) ∧
      player.snapshot.seen ["state", "slideId"] = player.phase.slide?.map (fun slide => .text (.ok slide)) ∧
      player.snapshot.seen ["currentSlideId"] = player.currentSlideId?.map (fun slide => .text (.ok slide)) ∧
      (∀ id, player.snapshot.seen ["variables", id] = (player.store.entry? id).map fun value =>
        ((value.map Value.toJson).getD .null).outline) ∧
      ∀ id, player.snapshot.seen ["layers", id] = (player.layers.isVisible? id).map .bool := by
  obtain ⟨state, current, store, layers⟩ := snapshot_walked player.snapshot
  obtain ⟨word, slide⟩ := phase_walked player.snapshot.phase
  refine ⟨?_, ?_, ?_, fun id => ?_, fun id => ?_⟩
  · rw [Snapshot.seen_within _ _ _ _ state, word]
    rfl
  · rw [Snapshot.seen_within _ _ _ _ state, slide, Option.map_map]
    rfl
  · rw [Snapshot.seen_eq, List.map_singleton, current, Option.map_map]
    rfl
  · rw [Snapshot.seen_within _ _ _ _ store, store_walked, Option.map_map]
    rfl
  · rw [Snapshot.seen_within _ _ _ _ layers, layers_walked, Option.map_map]
    rfl

end Slideshow
