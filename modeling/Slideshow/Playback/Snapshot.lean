import Slideshow.Playback.Player

set_option autoImplicit false

namespace Slideshow

structure Snapshot where
  phase : Phase
  currentSlideId : Option String
  store : VariableStore
  layers : LayerState

def Phase.toJson : Phase → Json
  | .idle => .object [("state", .text "idle")]
  | .active slide => .object [("state", .text "slideActive"), ("slideId", .text slide)]
  | .navigating slide => .object [("state", .text "navigating"), ("slideId", .text slide)]

def VariableStore.toJson (store : VariableStore) : Json :=
  .object (store.values.entries.map fun (id, value) => (id, (value.map Value.toJson).getD .null))

def LayerState.toJson (layers : LayerState) : Json :=
  .object (layers.visibility.entries.map fun (id, visible) => (id, .bool visible))

def Snapshot.toJson (snapshot : Snapshot) : Json :=
  .object ([("state", snapshot.phase.toJson)] ++
    optionalMember "currentSlideId" (snapshot.currentSlideId.map .text) ++
    [("variables", snapshot.store.toJson), ("layers", snapshot.layers.toJson)])

def Snapshot.text (snapshot : Snapshot) : String :=
  snapshot.toJson.write

def Player.snapshot (player : Player) : Snapshot :=
  ⟨player.phase, player.currentSlideId?, player.store, player.layers⟩

end Slideshow
