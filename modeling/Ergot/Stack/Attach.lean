import Ergot.Lib.Runs
import Ergot.Stack.NetStack
import Ergot.Stack.Ports

/-!
# Attached sockets

`try_attach_socket`, `attach_broadcast_socket` and `detach_socket` (net_stack/mod.rs:284). The
list of the sockets says which ports are in use, and the port cache repeats a part of it. A
socket may be detached twice, by its handle and by its own drop, and then its port may already
belong to another.

- `NetStackInner` has the list and the cache; `exec` is one operation of a socket on it.
- `Agree` is the invariant: no port is handed out twice, and the cache has the truth about its
  range.
- `ports_agree` is the result, for every run from an empty stack.
-/

namespace Ergot.Attach

/-- The fields of `NetStackInner` that attaching and detaching are about. -/
structure NetStackInner (κ : Type) where
  sockets : List (Socket κ)
  ports : PortCache

/-- A node of the list. The code has no field `broadcast`: it records which function has
attached the socket. -/
structure Node (ι : Type) where
  addr : ι
  broadcast : Bool

namespace NetStackInner

variable {κ ι : Type}

/-- The stack without sockets. -/
def new : NetStackInner κ := ⟨[], .empty⟩

/-- `try_attach_socket`. -/
def tryAttachSocket (s : NetStackInner κ) (node : Socket κ) : Option UInt8 × NetStackInner κ :=
  match s.ports.allocPort (s.sockets.map Socket.port) with
  | (some newPort, ports) => (some newPort, ⟨{ node with port := newPort } :: s.sockets, ports⟩)
  | (none, ports) => (none, { s with ports })

/-- `attach_broadcast_socket`. -/
def attachBroadcastSocket (s : NetStackInner κ) (node : Socket κ) : NetStackInner κ :=
  { s with sockets := s.sockets ++ [{ node with port := 255 }] }

/-- `detach_socket`: `List::remove` returns the node only if it is linked. -/
def detachSocket [DecidableEq ι] (s : NetStackInner (Node ι)) (addr : ι) :
    NetStackInner (Node ι) :=
  match s.sockets.find? fun node => node.inner.addr = addr with
  | none => s
  | some node =>
    { s with
      sockets := s.sockets.eraseP fun node => node.inner.addr = addr
      ports := if node.port ≠ 255 then s.ports.freePort node.port else s.ports }

/-- The nodes that are linked. -/
def addrs (s : NetStackInner (Node ι)) : List ι := s.sockets.map (·.inner.addr)

/-- The ports of the attached sockets that are not broadcast sockets. -/
def portsInUse (s : NetStackInner (Node ι)) : List UInt8 :=
  (s.sockets.filter fun node => !node.inner.broadcast).map Socket.port

end NetStackInner

/-- What is done to a socket. -/
inductive SocketOp (ι : Type)
  | tryAttach (node : Socket ι)
  | attachBroadcast (node : Socket ι)
  | detach (addr : ι)

/-- A node as `try_attach_socket` or `attach_broadcast_socket` gets it. -/
def Node.of {ι : Type} (node : Socket ι) (broadcast : Bool) : Socket (Node ι) :=
  { node with inner := ⟨node.inner, broadcast⟩ }

variable {ι : Type}

/-- One operation. -/
def exec [DecidableEq ι] (s : NetStackInner (Node ι)) : SocketOp ι → NetStackInner (Node ι)
  | .tryAttach node => (s.tryAttachSocket (Node.of node false)).2
  | .attachBroadcast node => s.attachBroadcastSocket (Node.of node true)
  | .detach addr => s.detachSocket addr

/-- What the callers promise: only a socket that is not attached is attached. -/
def Detached (s : NetStackInner (Node ι)) : SocketOp ι → Prop
  | .tryAttach node => node.inner ∉ s.addrs
  | .attachBroadcast node => node.inner ∉ s.addrs
  | .detach _ => True

instance Detached.decidable [DecidableEq ι] (s : NetStackInner (Node ι)) :
    ∀ op, Decidable (Detached s op)
  | .tryAttach node => inferInstanceAs (Decidable (node.inner ∉ s.addrs))
  | .attachBroadcast node => inferInstanceAs (Decidable (node.inner ∉ s.addrs))
  | .detach _ => inferInstanceAs (Decidable True)

/-! ## The invariant -/

/-- The sockets and the port cache agree. -/
structure Agree (s : NetStackInner (Node ι)) : Prop where
  addrs : s.addrs.Nodup
  ports : s.portsInUse.Nodup
  range : ∀ port ∈ s.portsInUse, port ≠ 0 ∧ port ≠ 255
  broadcast : ∀ node ∈ s.sockets, node.inner.broadcast = true → node.port = 255
  tracks : s.ports.Tracks (s.sockets.map Socket.port)

theorem agree_new : Agree (.new : NetStackInner (Node ι)) where
  addrs := .nil
  ports := .nil
  range _ h := absurd h List.not_mem_nil
  broadcast _ h := absurd h List.not_mem_nil
  tracks := PortCache.tracks_empty

namespace Agree

variable {s : NetStackInner (Node ι)}

theorem mem_portsInUse {node : Socket (Node ι)} (hnode : node ∈ s.sockets)
    (hb : node.inner.broadcast = false) : node.port ∈ s.portsInUse :=
  List.mem_map_of_mem (List.mem_filter.mpr ⟨hnode, by rw [hb]; rfl⟩)

/-- The ports of the list are those in use, and the broadcast port. -/
theorem mem_ports_iff (h : Agree s) {port : UInt8} (hport : port ≠ 255) :
    port ∈ s.sockets.map Socket.port ↔ port ∈ s.portsInUse := by
  constructor
  · intro hmem
    obtain ⟨node, hnode, rfl⟩ := List.mem_map.mp hmem
    cases hb : node.inner.broadcast with
    | true => exact absurd (h.broadcast node hnode hb) hport
    | false => exact mem_portsInUse hnode hb
  · intro hmem
    obtain ⟨node, hnode, rfl⟩ := List.mem_map.mp hmem
    exact List.mem_map_of_mem (List.mem_of_mem_filter hnode)

theorem zero_notMem (h : Agree s) : 0 ∉ s.sockets.map Socket.port := by
  intro hmem
  rw [h.mem_ports_iff (by decide)] at hmem
  exact (h.range 0 hmem).1 rfl

end Agree

/-! ## What one operation does -/

/-- The two ways `try_attach_socket` can go. -/
theorem tryAttachSocket_cases {κ : Type} (s : NetStackInner κ) (node : Socket κ) :
    (∃ port, (s.ports.allocPort (s.sockets.map Socket.port)).1 = some port ∧
        s.tryAttachSocket node = (some port, ⟨{ node with port := port } :: s.sockets,
          (s.ports.allocPort (s.sockets.map Socket.port)).2⟩)) ∨
      ((s.ports.allocPort (s.sockets.map Socket.port)).1 = none ∧
        s.tryAttachSocket node = (none, ⟨s.sockets,
          (s.ports.allocPort (s.sockets.map Socket.port)).2⟩)) := by
  unfold NetStackInner.tryAttachSocket
  rcases s.ports.allocPort (s.sockets.map Socket.port) with ⟨_ | port, c⟩
  · exact .inr ⟨rfl, rfl⟩
  · exact .inl ⟨port, rfl, rfl⟩

theorem attach_ok {s : NetStackInner (Node ι)} (h : Agree s) {node : Socket ι} {port : UInt8}
    (hnode : node.inner ∉ s.addrs)
    (hport : (s.ports.allocPort (s.sockets.map Socket.port)).1 = some port) :
    Agree ⟨{ Node.of node false with port := port } :: s.sockets,
        (s.ports.allocPort (s.sockets.map Socket.port)).2⟩ ∧
      (s.ports.allocPort (s.sockets.map Socket.port)).2.Marks
        (port :: s.sockets.map Socket.port) := by
  have hspec := PortCache.allocPort_spec (h.tracks.covers h.zero_notMem)
  have hfound := PortCache.allocPort_found h.tracks
  rw [PortCache.Allocated, hport] at hspec
  rw [PortCache.Found, hport] at hfound
  obtain ⟨hfree, h0, h255, -⟩ := hspec
  refine ⟨?_, hfound⟩
  constructor
  · exact List.nodup_cons.mpr ⟨hnode, h.addrs⟩
  · refine List.nodup_cons.mpr ⟨fun hmem => hfree ?_, h.ports⟩
    exact (h.mem_ports_iff h255).mpr hmem
  · intro p hp
    rcases List.mem_cons.mp hp with rfl | hp
    · exact ⟨h0, h255⟩
    · exact h.range p hp
  · intro n hn hb
    rcases List.mem_cons.mp hn with rfl | hn
    · cases hb
    · exact h.broadcast n hn hb
  · exact hfound.tracks

/-- Without a free port, only the cache is another. -/
theorem attach_full {s : NetStackInner (Node ι)} (h : Agree s)
    (hport : (s.ports.allocPort (s.sockets.map Socket.port)).1 = none) :
    Agree ⟨s.sockets, (s.ports.allocPort (s.sockets.map Socket.port)).2⟩ ∧
      (s.ports.allocPort (s.sockets.map Socket.port)).2.Marks (s.sockets.map Socket.port) := by
  have hfound := PortCache.allocPort_found h.tracks
  rw [PortCache.Found, hport] at hfound
  exact ⟨{ h with tracks := hfound.1.tracks }, hfound.1⟩

theorem attachBroadcast_agree {s : NetStackInner (Node ι)} (h : Agree s) {node : Socket ι}
    (hnode : node.inner ∉ s.addrs) : Agree (s.attachBroadcastSocket (Node.of node true)) := by
  have hports : (s.attachBroadcastSocket (Node.of node true)).portsInUse = s.portsInUse := by
    unfold NetStackInner.portsInUse NetStackInner.attachBroadcastSocket
    rw [List.filter_append]
    simp [Node.of]
  constructor
  · unfold NetStackInner.addrs NetStackInner.attachBroadcastSocket
    rw [List.map_append, List.nodup_append]
    refine ⟨h.addrs, List.nodup_singleton _, fun a ha b hb => ?_⟩
    rintro rfl
    rw [List.mem_singleton.mp hb] at ha
    exact hnode ha
  · exact hports ▸ h.ports
  · exact hports ▸ h.range
  · intro n hn hb
    rcases List.mem_append.mp hn with hn | hn
    · exact h.broadcast n hn hb
    · rw [List.mem_singleton.mp hn]
  · refine h.tracks.congr fun p hp => ?_
    rw [NetStackInner.attachBroadcastSocket, List.map_append, List.mem_append]
    simp [Node.of, hp]

/-- Nobody else has the port of a socket that is not a broadcast socket. -/
theorem Agree.port_notMem {s : NetStackInner (Node ι)} (h : Agree s) {node : Socket (Node ι)}
    {pre suf : List (Socket (Node ι))} (hsplit : s.sockets = pre ++ node :: suf)
    (hport : node.port ≠ 255) :
    node.port ∉ (pre ++ suf).map Socket.port := by
  have hunicast : ∀ n ∈ s.sockets, n.port = node.port → n.inner.broadcast = false := by
    intro n hn heq
    cases hb : n.inner.broadcast with
    | true => exact absurd (heq ▸ h.broadcast n hn hb) hport
    | false => rfl
  have hnode : node.inner.broadcast = false := by
    refine hunicast node ?_ rfl
    rw [hsplit]
    exact List.mem_append_right _ List.mem_cons_self
  intro hmem
  obtain ⟨n, hn, heq⟩ := List.mem_map.mp hmem
  have hn' : n ∈ s.sockets := by
    rw [hsplit]
    rcases List.mem_append.mp hn with hn | hn
    · exact List.mem_append_left _ hn
    · exact List.mem_append_right _ (List.mem_cons_of_mem _ hn)
  have hports := h.ports
  rw [NetStackInner.portsInUse, hsplit, List.filter_append,
    List.filter_cons_of_pos (by rw [hnode]; rfl), List.map_append, List.map_cons,
    List.nodup_middle, List.nodup_cons] at hports
  refine hports.1 ?_
  rw [← List.map_append, ← List.filter_append, ← heq]
  exact List.mem_map_of_mem (List.mem_filter.mpr ⟨hn, by rw [hunicast n hn' heq]; rfl⟩)

section Detach

variable [DecidableEq ι] {s : NetStackInner (Node ι)} {addr : ι}

/-- A redundant detach changes nothing. -/
theorem detachSocket_of_notMem (haddr : addr ∉ s.addrs) : s.detachSocket addr = s := by
  unfold NetStackInner.detachSocket
  have hfind : (s.sockets.find? fun node => node.inner.addr = addr) = none := by
    rw [List.find?_eq_none]
    intro node hnode haddr'
    refine haddr (List.mem_map.mpr ⟨node, hnode, ?_⟩)
    simpa using haddr'
  rw [hfind]

/-- The list around the node that is detached. -/
theorem detachSocket_split (haddr : addr ∈ s.addrs) :
    ∃ node pre suf, s.sockets = pre ++ node :: suf ∧ node.inner.addr = addr ∧
      s.detachSocket addr = ⟨pre ++ suf,
        if node.port ≠ 255 then s.ports.freePort node.port else s.ports⟩ := by
  obtain ⟨node, hnode, rfl⟩ := List.mem_map.mp haddr
  have hsome : ((s.sockets.find? fun n => n.inner.addr = node.inner.addr).isSome : Prop) := by
    rw [List.find?_isSome]
    exact ⟨node, hnode, by simp⟩
  obtain ⟨found, hfind⟩ := Option.isSome_iff_exists.mp hsome
  obtain ⟨haddr', pre, suf, hsplit, hpre⟩ := List.find?_eq_some_iff_append.mp hfind
  refine ⟨found, pre, suf, hsplit, by simpa using haddr', ?_⟩
  unfold NetStackInner.detachSocket
  rw [hfind]
  dsimp only
  congr 1
  rw [hsplit, List.eraseP_append_right _ (by simpa using hpre),
    List.eraseP_cons_of_pos (by simpa using haddr')]

theorem detach_agree (h : Agree s) : Agree (s.detachSocket addr) := by
  by_cases haddr : addr ∈ s.addrs
  · obtain ⟨node, pre, suf, hsplit, -, hres⟩ := detachSocket_split haddr
    rw [hres]
    have hsub : (pre ++ suf).Sublist s.sockets := by
      rw [hsplit]
      exact (List.sublist_cons_self node suf).append_left pre
    have hinUse := (hsub.filter fun node => !node.inner.broadcast).map Socket.port
    constructor
    · exact h.addrs.sublist (hsub.map _)
    · exact h.ports.sublist hinUse
    · exact fun port hport => h.range port (hinUse.subset hport)
    · exact fun n hn => h.broadcast n (hsub.subset hn)
    · have hmem : ∀ p, p ∈ node.port :: (pre ++ suf).map Socket.port ↔
          p ∈ s.sockets.map Socket.port := by
        intro p
        rw [hsplit]
        simp only [List.map_append, List.map_cons, List.mem_cons, List.mem_append]
        exact or_left_comm
      show PortCache.Tracks (if node.port ≠ 255 then s.ports.freePort node.port else s.ports)
        ((pre ++ suf).map Socket.port)
      split
      · rename_i hport
        exact (h.tracks.congr fun p _ => hmem p).freePort hport (h.port_notMem hsplit hport)
      · rename_i hport
        refine h.tracks.congr fun p hp => ?_
        rw [← hmem p, List.mem_cons, or_iff_right]
        rintro rfl
        exact hport hp
  · rw [detachSocket_of_notMem haddr]
    exact h

theorem exec_agree (h : Agree s) {op : SocketOp ι} (hop : Detached s op) : Agree (exec s op) := by
  cases op with
  | tryAttach node =>
    show Agree (s.tryAttachSocket (Node.of node false)).2
    rcases tryAttachSocket_cases s (Node.of node false) with ⟨port, hport, hres⟩ | ⟨hport, hres⟩
    · rw [hres]
      exact (attach_ok h hop hport).1
    · rw [hres]
      exact (attach_full h hport).1
  | attachBroadcast node => exact attachBroadcast_agree h hop
  | detach addr => exact detach_agree h

end Detach

/-! ## Every run -/

/-- The ports that are not reserved. -/
theorem mem_range_iff (port : UInt8) :
    port ≠ 0 ∧ port ≠ 255 ↔ 1 ≤ port.toNat ∧ port.toNat ≤ 254 := by
  have hlt := port.toNat_lt
  rw [ne_eq, ne_eq, ← UInt8.toNat_inj, ← UInt8.toNat_inj]
  show ¬port.toNat = 0 ∧ ¬port.toNat = 255 ↔ _
  omega

/-- The invariant holds along every run whose callers keep their promise. -/
theorem runAll_agree [DecidableEq ι] {s : NetStackInner (Node ι)} (h : Agree s)
    {ops : List (SocketOp ι)} (hops : Runs.Always exec Detached s ops) :
    Agree (Runs.runAll exec s ops) := by
  induction ops generalizing s with
  | nil => exact h
  | cons op ops ih => exact ih (exec_agree h hops.1) hops.2

/-- **The allocator and the sockets agree.** After any operations on the sockets of an empty
stack, of which none attaches a socket that is attached, the ports in use are distinct and
within 1..=254. The next `try_attach_socket` fails exactly when all of these are in use, and
then neither a socket nor a port changes; and in any case it leaves a bitmap that marks exactly
the ports of its range that are in use or reserved. A redundant detach changes nothing. -/
theorem ports_agree [DecidableEq ι] (ops : List (SocketOp ι))
    (hops : Runs.Always exec Detached .new ops) :
    let s := Runs.runAll exec .new ops
    s.portsInUse.Nodup ∧ (∀ port ∈ s.portsInUse, 1 ≤ port.toNat ∧ port.toNat ≤ 254) ∧
      (∀ node : Socket ι, node.inner ∉ s.addrs →
        let res := s.tryAttachSocket (Node.of node false)
        (res.1 = none ↔ ∀ port : UInt8, 1 ≤ port.toNat → port.toNat ≤ 254 → port ∈ s.portsInUse) ∧
          (res.1 = none → res.2.sockets = s.sockets) ∧
          (∀ port, res.1 = some port →
            res.2.sockets = { Node.of node false with port := port } :: s.sockets) ∧
          res.2.ports.Marks res.2.portsInUse) ∧
      ∀ addr, addr ∉ s.addrs → s.detachSocket addr = s := by
  intro s
  have h : Agree s := runAll_agree agree_new hops
  refine ⟨h.ports, fun port hport => ?_, fun node hnode => ?_, fun _ => detachSocket_of_notMem⟩
  · exact (mem_range_iff port).mp (h.range port hport)
  · have hfull : (s.ports.allocPort (s.sockets.map Socket.port)).1 = none ↔
        ∀ port : UInt8, 1 ≤ port.toNat → port.toNat ≤ 254 → port ∈ s.portsInUse := by
      rw [PortCache.allocPort_eq_none h.tracks h.zero_notMem]
      constructor
      · intro hall port hlo hhi
        obtain ⟨h0, h255⟩ := (mem_range_iff port).mpr ⟨hlo, hhi⟩
        exact (h.mem_ports_iff h255).mp (hall port h0 h255)
      · intro hall port h0 h255
        obtain ⟨hlo, hhi⟩ := (mem_range_iff port).mp ⟨h0, h255⟩
        exact (h.mem_ports_iff h255).mpr (hall port hlo hhi)
    dsimp only
    rcases tryAttachSocket_cases s (Node.of node false) with ⟨port, hport, hres⟩ | ⟨hport, hres⟩
    · obtain ⟨hagree, hmarks⟩ := attach_ok h hnode hport
      rw [hres]
      refine ⟨?_, fun hnone => ?_, fun p hp => ?_, ?_⟩
      · rw [← hfull, hport]
      · cases hnone
      · cases hp
        rfl
      · exact hmarks.congr fun p hp => (hagree.mem_ports_iff hp).symm
    · obtain ⟨hagree, hmarks⟩ := attach_full h hport
      rw [hres]
      refine ⟨?_, fun _ => rfl, fun p hp => ?_, ?_⟩
      · rw [← hfull, hport]
      · cases hp
      · exact hmarks.congr fun p hp => (hagree.mem_ports_iff hp).symm

/-- Sockets for a demo. -/
def demoSocket (addr : Nat) : Socket Nat :=
  { key := ⟨.replicate 8 0⟩, nash := none, kind := .endpointResp
    discoverable := false, port := 0, inner := addr }

/-- A port is freed once, and then belongs to another. -/
def demoOps : List (SocketOp Nat) :=
  [.tryAttach (demoSocket 0), .attachBroadcast (demoSocket 1), .tryAttach (demoSocket 2),
    .detach 0, .tryAttach (demoSocket 3), .detach 0]

theorem ports_agree_demo :
    (Runs.runAll exec .new demoOps).portsInUse.Nodup ∧
      (Runs.runAll exec .new demoOps).portsInUse = [1, 2] := by
  have hops : Runs.Always exec Detached .new demoOps := by decide +kernel
  exact ⟨(ports_agree demoOps hops).1, by decide +kernel⟩

end Ergot.Attach
