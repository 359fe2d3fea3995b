import Ergot.Router.Spec
import Ergot.Stack.Workers

/-!
# The faces of a router

What a router and an edge device keep of their interfaces, with the sinks replaced by
something that sends leave alone (`SinkKeeps`): nothing at all, or the identity of the
link behind the sink. The faces of a profile are a view that every frame leaves alone
and that a write of an RX worker changes at one place, so an invariant of the interface
table that does not look at the queues is an invariant of the faces.
-/

namespace Ergot

variable {σ τ : Type}

/-- A function of a sink that does not see what is sent. -/
structure SinkKeeps [InterfaceSink σ] (f : σ → τ) : Prop where
  sendTy : ∀ s hdr msg, f (InterfaceSink.sendTy s hdr msg).2 = f s
  sendRaw : ∀ s hdr data, f (InterfaceSink.sendRaw s hdr data).2 = f s
  sendErr : ∀ s hdr e, f (InterfaceSink.sendErr s hdr e).2 = f s

/-- Nothing of a sink. -/
theorem SinkKeeps.unit [InterfaceSink σ] : SinkKeeps fun _ : σ => () :=
  ⟨fun _ _ _ => rfl, fun _ _ _ => rfl, fun _ _ _ => rfl⟩

namespace EdgePort

/-- A port with `f` of its sink. -/
def face (f : σ → τ) (p : EdgePort σ) : EdgePort τ :=
  ⟨f p.sink, p.state, p.ownNodeId, p.otherNodeId⟩

@[simp] theorem face_state (f : σ → τ) (p : EdgePort σ) : (p.face f).state = p.state := rfl

@[simp] theorem setState_sink (p : EdgePort σ) (state : InterfaceState) :
    (p.setState state).2.sink = p.sink := by
  cases state <;> simp only [setState] <;> split <;> rfl

/-- `set_state` does not look at the sink. -/
theorem face_setState (f : σ → τ) (p : EdgePort σ) (state : InterfaceState) :
    (p.setState state).2.face f = ((p.face f).setState state).2 := by
  cases state <;> simp only [setState] <;> first | rfl | (split <;> rfl)

private theorem invalid_node (nodeId : UInt8) :
    (nodeId ≠ 0 ∧ nodeId ≠ 255) ↔ ¬ (nodeId = 0 ∨ nodeId = 255) :=
  not_or.symm

/-- A node id that is refused changes nothing. -/
theorem setState_invalid (p : EdgePort σ) {state : InterfaceState} (h : ¬ state.Valid) :
    (p.setState state).2 = p := by
  cases state with
  | down => exact absurd trivial h
  | inactive => exact absurd trivial h
  | activeLocal nodeId =>
    have hinvalid := not_not.mp (mt (invalid_node nodeId).mpr h)
    simp only [setState, if_pos hinvalid]
  | active netId nodeId =>
    have hinvalid := not_not.mp (mt (invalid_node nodeId).mpr h)
    simp only [setState, if_pos hinvalid]

/-- An address that is taken becomes the port's own. -/
theorem setState_active (p : EdgePort σ) {netId : UInt16} {nodeId : UInt8}
    (h : (InterfaceState.active netId nodeId).Valid) :
    (p.setState (.active netId nodeId)).2 =
      { p with ownNodeId := nodeId, state := .active netId nodeId } := by
  simp only [setState, if_neg ((invalid_node nodeId).mp h)]

/-- What `set_state` answers. -/
theorem setState_ok (p : EdgePort σ) (state : InterfaceState) :
    (p.setState state).1 = .ok () ↔ state.Valid := by
  cases state with
  | down => exact iff_of_true rfl trivial
  | inactive => exact iff_of_true rfl trivial
  | activeLocal nodeId =>
    simp only [setState, InterfaceState.Valid, invalid_node]
    split <;> simp_all
  | active netId nodeId =>
    simp only [setState, InterfaceState.Valid, invalid_node]
    split <;> simp_all

/-- What `set_state` leaves. -/
theorem setState_state (p : EdgePort σ) (state : InterfaceState) :
    (p.setState state).2.state = if state.Valid then state else p.state := by
  by_cases hvalid : state.Valid
  · rw [if_pos hvalid]
    cases state with
    | down => rfl
    | inactive => rfl
    | activeLocal nodeId => simp only [setState, if_neg ((invalid_node nodeId).mp hvalid)]
    | active netId nodeId => rw [p.setState_active hvalid]
  · rw [if_neg hvalid, p.setState_invalid hvalid]

section Sends

variable [InterfaceSink σ] {f : σ → τ} (hf : SinkKeeps f)
include hf

theorem face_send (p : EdgePort σ) (hdr : Header) (data : Msg) :
    (p.send hdr data).2.face f = p.face f := by
  unfold send
  split
  · rfl
  · simp only [report, face, hf.sendTy]

theorem face_sendErr (p : EdgePort σ) (hdr : Header) (err : ProtocolError) :
    (p.sendErr hdr err).2.face f = p.face f := by
  unfold sendErr
  split
  · rfl
  · simp only [report, face, hf.sendErr]

theorem face_sendRaw (p : EdgePort σ) (hdr : Header) (data : List UInt8) :
    (p.sendRaw hdr data).2.face f = p.face f := by
  unfold sendRaw
  split
  · rfl
  · split
    · rfl
    · simp only [report, face, hf.sendRaw]

end Sends

end EdgePort

/-- A slot with `f` of its sink. -/
def Slot.face (f : σ → τ) (s : Slot σ) : Slot τ := ⟨s.ident, s.port.face f, s.netId⟩

/-- A write to the state of a slot. -/
def Slot.setState (state : InterfaceState) (s : Slot σ) : Slot σ :=
  { s with port := (s.port.setState state).2 }

/-! ## Routers -/

/-- The slots of a router and its upstream, by their faces. -/
structure Faces (τ : Type) where
  slots : List (Slot τ)
  upstream : Option (EdgePort τ)

namespace Faces

/-- `Profile::interface_state` of a router. -/
def interfaceState (r : Faces τ) (ident : UInt8) : Option InterfaceState :=
  if ident = upstreamIdent then r.upstream.map EdgePort.state
  else (r.slots.find? fun s => s.ident = ident).map fun s => s.port.state

/-- `Profile::set_interface_state` of a router. -/
def setState (ident : UInt8) (state : InterfaceState) (r : Faces τ) : Faces τ :=
  if ident = upstreamIdent then
    { r with upstream := r.upstream.map fun up => (up.setState state).2 }
  else
    { r with
      slots := HeaplessVec.modifyFirstList (fun s => s.ident = ident) (Slot.setState state) r.slots }

/-- The state of an interface after a write to it. -/
theorem interfaceState_setState (r : Faces τ) (ident : UInt8) (state : InterfaceState) :
    (r.setState ident state).interfaceState ident = writeState state (r.interfaceState ident) := by
  unfold interfaceState setState
  split
  · cases r.upstream with
    | none => simp [writeState]
    | some up =>
      simp only [Option.map_some, EdgePort.setState_state, writeState]
      split <;> rfl
  · cases hslot : r.slots.find? fun s => s.ident = ident with
    | none =>
      rw [HeaplessVec.modifyFirstList_of_find?_none hslot, hslot]
      simp [writeState]
    | some slot =>
      have hident : slot.ident = ident := by simpa using List.find?_some hslot
      have hstays : decide ((slot.setState state).ident = ident) = true :=
        decide_eq_true hident
      rw [HeaplessVec.find?_modifyFirstList _ hslot hstays]
      simp only [Slot.setState, Option.map_some, EdgePort.setState_state, writeState]
      split <;> rfl

end Faces

namespace Router

variable {N S C : Nat} (f : σ → τ)

/-- The faces of a router. -/
def faces (r : Router σ N S C) : Faces τ :=
  ⟨r.slots.toList.map (Slot.face f), r.upstream.map (EdgePort.face f)⟩

theorem find?_face (p : UInt8 → Bool) (slots : List (Slot σ)) :
    (slots.map (Slot.face f)).find? (fun s => p s.ident) =
      (slots.find? fun s => p s.ident).map (Slot.face f) := by
  rw [List.find?_map]
  rfl

theorem interfaceState_faces (r : Router σ N S C) (ident : UInt8) :
    (r.faces f).interfaceState ident = r.interfaceState ident := by
  unfold Faces.interfaceState interfaceState faces
  split
  · cases r.upstream <;> rfl
  · have hfind := find?_face f (fun i => i = ident) r.slots.toList
    rw [hfind, Option.map_map]
    rfl

/-- A write to the state of an interface, seen from the faces. -/
theorem faces_setInterfaceState (r : Router σ N S C) (ident : UInt8) (state : InterfaceState) :
    (r.setInterfaceState ident state).2.faces f = (r.faces f).setState ident state := by
  unfold setInterfaceState Faces.setState
  split
  · cases hup : r.upstream with
    | none => simp only [faces, hup, Option.map_none]
    | some up => simp only [faces, hup, Option.map_some, EdgePort.face_setState]
  · have hmap : ∀ slots : List (Slot σ),
        (HeaplessVec.modifyFirstList (fun s => s.ident = ident) (Slot.setState state) slots).map
            (Slot.face f) =
          HeaplessVec.modifyFirstList (fun s => s.ident = ident) (Slot.setState state)
            (slots.map (Slot.face f)) :=
      HeaplessVec.modifyFirstList_map (fun _ => rfl) fun s => by
        simp only [Slot.setState, Slot.face, EdgePort.face_setState]
    cases hslot : r.slots.toList.find? fun s => s.ident = ident with
    | none =>
      simp only [faces]
      rw [← hmap, HeaplessVec.modifyFirstList_of_find?_none hslot]
    | some slot =>
      simp only [faces]
      rw [← hmap]
      rfl

/-! ### Sends leave the faces alone -/

variable {f}

private theorem faces_eq {r r' : Router σ N S C}
    (hslots : r'.slots.toList.map (Slot.face f) = r.slots.toList.map (Slot.face f))
    (hup : r'.upstream.map (EdgePort.face f) = r.upstream.map (EdgePort.face f)) :
    r'.faces f = r.faces f := by
  simp only [faces, hslots, hup]

private theorem slotMut_faces {r : Router σ N S C} {p : Slot σ → Bool} {slot : Slot σ}
    (hslot : r.slots.toList.find? p = some slot) {port : EdgePort σ}
    (hport : port.face f = slot.port.face f) :
    ((r.slotMut p slot).putBack port).faces f = r.faces f := by
  refine faces_eq ?_ rfl
  obtain ⟨before, after, hsplit, -, hmod⟩ :=
    HeaplessVec.modifyFirstList_split (fun s => { s with port }) hslot
  show (HeaplessVec.modifyFirstList p (fun s => { s with port }) r.slots.toList).map _ = _
  rw [hmod, hsplit]
  simp only [List.map_append, List.map_cons, Slot.face, hport]

/-- A port that is lent out and put back with the same face. -/
private theorem findAged_faces {r : Router σ N S C} {hdr : Header} {source : Option UInt8}
    {later : Nat} {ref : PortMut σ N S C} (h : r.findAged hdr source later = .ok ref)
    {port : EdgePort σ} (hport : port.face f = ref.port.face f) :
    (ref.putBack port).faces f = r.faces f := by
  unfold findAged at h
  split at h
  · next slot hslot =>
    split at h
    · cases h
    · split at h
      · cases h
      · cases h
        exact slotMut_faces hslot hport
  · split at h
    · -- the default route
      unfold findUpstream at h
      split at h
      · cases h
      · next up hup =>
        split at h
        · cases h
        · cases h
          refine faces_eq rfl ?_
          simp only [hup, Option.map_some, hport]
    · -- a seed route
      split at h
      · dsimp only at h
        split at h
        · cases h
        · split at h
          · cases h
          · next slot hslot =>
            cases h
            exact slotMut_faces hslot hport
      · cases h

theorem faces_gcSeed (r : Router σ N S C) (now : Nat) : (r.gcSeed now).faces f = r.faces f := rfl

/-- A send through the port that was found. -/
theorem faces_findThen (r : Router σ N S C) (hdr : Header) (source : Option UInt8) (clock : Clock)
    {use : EdgePort σ → Except InterfaceSendError Unit × EdgePort σ}
    (huse : ∀ p, (use p).2.face f = p.face f) :
    (r.findThen hdr source clock use).2.faces f = r.faces f := by
  unfold findThen find
  by_cases hkey : hdr.dst.portId = 0 ∧ hdr.anyAll.isNone
  · rw [if_pos hkey]
  · rw [if_neg hkey]
    cases hfind : (r.gcSeed clock.now).findAged hdr source clock.later with
    | error e =>
      simp only [hfind]
      exact r.faces_gcSeed clock.now
    | ok ref =>
      simp only [hfind]
      rw [findAged_faces hfind (huse ref.port), faces_gcSeed]

variable [InterfaceSink σ] (hf : SinkKeeps f)
include hf

theorem faces_send (r : Router σ N S C) (hdr : Header) (data : Msg) (clock : Clock) :
    (r.send hdr data clock).2.faces f = r.faces f := by
  unfold send
  split
  · rfl
  · next hdr _ =>
    have hleg : ∀ (acc : Flood) (slot : Slot σ),
        (sendLeg hdr data acc slot).2.face f = slot.face f := by
      intro acc slot
      unfold sendLeg
      split
      · rfl
      · simp only [Slot.face, EdgePort.face_send hf]
    have hslots := fun acc => HeaplessVec.map_forEachList (Slot.face f) hleg acc r.slots.toList
    split
    · split
      · rfl
      · dsimp only
        split
        · exact faces_eq (hslots _) rfl
        · next up hup =>
          refine faces_eq (hslots _) ?_
          simp only [hup, Option.map_some, EdgePort.face_send hf]
    · exact r.faces_findThen _ _ _ fun p => p.face_send hf _ _

theorem faces_sendErr (r : Router σ N S C) (hdr : Header) (err : ProtocolError)
    (source : Option UInt8) (clock : Clock) :
    (r.sendErr hdr err source clock).2.faces f = r.faces f := by
  unfold sendErr
  split
  · rfl
  · exact r.faces_findThen _ _ _ fun p => p.face_sendErr hf _ _

theorem faces_sendRaw (r : Router σ N S C) (hdr : Header) (data : List UInt8) (source : UInt8)
    (clock : Clock) : (r.sendRaw hdr data source clock).2.faces f = r.faces f := by
  have hleg : ∀ (st : RawFlood) (slot : Slot σ),
      (sendRawLeg data source st slot).2.face f = slot.face f := by
    intro st slot
    unfold sendRawLeg
    split
    · rfl
    · simp only [Slot.face, EdgePort.face_sendRaw hf]
  have hslots := fun st => HeaplessVec.map_forEachList (Slot.face f) hleg st r.slots.toList
  unfold sendRaw
  split
  · rfl
  · split
    · split
      · rfl
      · split
        · rfl
        · dsimp only
          split
          · exact faces_eq (hslots _) rfl
          · next up hup =>
            split
            · exact faces_eq (hslots _) rfl
            · refine faces_eq (hslots _) ?_
              simp only [hup, Option.map_some, EdgePort.face_sendRaw hf]
    · exact r.faces_findThen _ _ _ fun p => p.face_sendRaw hf _ _

/-- The faces of a router are a view of it. -/
theorem faces_view (ident : UInt8) :
    IfaceView ident (faces f : Router σ N S C → Faces τ) (Faces.setState ident) where
  sendRaw r hdr body source clock := r.faces_sendRaw hf hdr body source clock
  sendErr r hdr e source clock := r.faces_sendErr hf hdr e source clock
  isTransitNet r netId now := by
    show (r.isTransitNet netId now).2.faces f = r.faces f
    unfold isTransitNet
    split
    · rfl
    · split <;> rfl
  set r state := r.faces_setInterfaceState f ident state

omit hf

instance : Interfaces (Router σ N S C) where
  view ident := by
    refine (faces_view .unit ident).map (fun v => v.interfaceState ident) ?_ ?_
    · intro r
      exact (r.interfaceState_faces _ ident).symm
    · intro state v
      exact v.interfaceState_setState ident state
  set_ok r ident state := by
    show (r.setInterfaceState ident state).1 = .ok () ↔ _ ∧ (r.interfaceState ident).isSome
    unfold setInterfaceState interfaceState
    split
    · cases r.upstream with
      | none => simp
      | some up => simp [EdgePort.setState_ok]
    · cases r.slots.toList.find? fun s => s.ident = ident with
      | none => simp
      | some slot => simp [EdgePort.setState_ok]

end Router

/-! ## Edge devices -/

namespace DirectEdge

variable {f : σ → τ} [InterfaceSink σ] (hf : SinkKeeps f)
include hf

/-- The port of an edge device is a view of it. -/
theorem face_view :
    IfaceView () (fun e : DirectEdge σ => e.port.face f) fun state p => (p.setState state).2 where
  sendRaw _ _ _ _ _ := rfl
  sendErr e hdr err source _ := by
    show (e.sendErr hdr err source).2.port.face f = e.port.face f
    unfold sendErr
    split
    · rfl
    · split
      · rfl
      · exact e.port.face_sendErr hf _ _
  isTransitNet _ _ _ := rfl
  set e state := e.port.face_setState f state

omit hf

instance : Interfaces (DirectEdge σ) where
  view ident := by
    refine (face_view .unit).map (fun p => some p.state) (fun _ => rfl) ?_
    intro state p
    simp only [EdgePort.setState_state, writeState, Option.map_some]
    split <;> rfl
  set_ok e ident state := by
    show (e.port.setState state).1 = .ok () ↔ _
    rw [e.port.setState_ok]
    exact (and_iff_left rfl).symm

end DirectEdge

end Ergot
