import Mathlib.Algebra.GroupWithZero.Nat
import PixelBuffer.Proofs.Allocator.Descriptors
import PixelBuffer.Proofs.Session.Ownership

/-!
# Descriptors of a session

A session keeps open the descriptors of the handles of its buffers, a duplicate for each share of
their planes, and a duplicate for each share that only cloned planes have. `Session.Balanced` states
this with the account of the platform; every use of a session keeps it (`Session.Balanced.use`), be
it an action, the cloning of a single plane or the dropping of one, and so does any sequence of
uses.

`Session.useAll_descriptors` reads it as a list of what is open, and adds what happens on the way:
an allocation that fails leaves open what was open, a handle is closed after all duplicates that
nobody holds, and a plane that is held measures the same for as long as it is.
-/

namespace PixelBuffer

/-- A use of a session: an action, or something done to a single plane. -/
inductive Use where
  | perform (action : Action)
  /-- Clones a plane of the buffer in a slot. -/
  | clone (slot plane : Nat)
  /-- Drops a cloned plane. -/
  | letGo (index : Nat)

namespace Session

variable {σ : Type}

/-- The platform of a session. -/
def platform (session : Session σ) : Platform :=
  session.client.world.platform

/-- A plane of the buffer in a slot. -/
def plane? (session : Session σ) (slot index : Nat) : Option Plane :=
  (session.buffer? slot).bind fun buffer => buffer.planes[index]?

/-- Uses a session once. -/
def use (allocator : Allocator σ) (session : Session σ) : Use → Session σ
  | .perform action => (session.perform allocator action).2
  | .clone slot index =>
      match session.plane? slot index with
      | none => session
      | some plane =>
          { session.changePlatform (·.retain plane.share) with kept := session.kept ++ [plane] }
  | .letGo index =>
      match session.kept[index]? with
      | none => session
      | some plane =>
          { session.changePlatform (·.release plane.share) with
            kept := session.kept.eraseIdx index }

/-- Uses a session in order. -/
def useAll (allocator : Allocator σ) (session : Session σ) (uses : List Use) : Session σ :=
  uses.foldl (use allocator) session

/-! ## What is held -/

/-- The descriptors of the handles of all buffers. -/
def own (session : Session σ) : List Descriptor :=
  session.held.flatMap fun buffer => buffer.handle.descriptors

/-- The planes of all buffers, and the cloned planes. -/
def livePlanes (session : Session σ) : List Plane :=
  session.held.flatMap Buffer.planes ++ session.kept

/-- The shares that only cloned planes have, each once. -/
def clonedOnly (session : Session σ) : List Share :=
  ((session.kept.map Plane.share).filter fun share =>
    share ∉ session.held.flatMap Buffer.shares).dedup

/-- The descriptors that a session accounts for: for each buffer those of its handle and a duplicate
for each of its shares, and a duplicate for each share that only cloned planes have. -/
def accountedFor (session : Session σ) : List Descriptor :=
  (session.held.flatMap fun buffer =>
      buffer.handle.descriptors ++ buffer.shares.filterMap session.platform.descriptorOf?) ++
    session.clonedOnly.filterMap session.platform.descriptorOf?

/-- A session holds all that is open since `start`. Buffers share no duplicates, each has as many as
it needs, and through every plane a length can be measured. -/
structure Balanced (start : Platform) (session : Session σ) : Prop where
  accounted : start.Accounted session.platform session.own (session.livePlanes.map Plane.share)
  apart : session.held.Pairwise fun buffer other => buffer.shares.Disjoint other.shares
  duplicates : ∀ buffer ∈ session.held, buffer.shares.length = buffer.duplicates
  measured : ∀ plane ∈ session.livePlanes, ∃ bytes,
    (session.platform.measureShare plane.share).1 = .ok bytes

/-- A handle that is given back between two sessions is closed last: what came to be since `start`
and is not open afterwards is its own, or was closed before it. -/
inductive FreesLast (start : Platform) (session after : Session σ) : Prop
  /-- No handle is given back. -/
  | nothing (freed_eq : Call.freed after.client.calls = Call.freed session.client.calls)
  /-- One handle is given back. -/
  | returned (handle : Handle) (earlier : List Descriptor)
      (freed_eq : Call.freed after.client.calls = Call.freed session.client.calls ++ [handle])
      (closed_eq : after.platform.closed.toList = earlier ++ handle.descriptors)
      (closed_earlier : ∀ descriptor, start.descriptors.size ≤ descriptor.number →
        descriptor.number < after.platform.descriptors.size →
        after.platform.openFile? descriptor = none → descriptor ∉ handle.descriptors →
        descriptor ∈ earlier)

variable {start : Platform} {session after : Session σ} {allocator : Allocator σ}

/-! ## Reading the account -/

/-- A share is listed with the buffers or with the clones exactly when some plane has it. -/
theorem mem_shares_iff (session : Session σ) (share : Share) :
    share ∈ session.held.flatMap Buffer.shares ++ session.clonedOnly ↔
      share ∈ session.livePlanes.map Plane.share := by
  have hheld : share ∈ session.held.flatMap Buffer.shares ↔
      share ∈ (session.held.flatMap Buffer.planes).map Plane.share := by
    rw [List.map_flatMap, List.mem_flatMap, List.mem_flatMap]
    simp only [Buffer.shares, List.mem_dedup]
  have hcloned : share ∈ session.clonedOnly ↔ share ∈ session.kept.map Plane.share ∧
      share ∉ session.held.flatMap Buffer.shares := by
    rw [clonedOnly, List.mem_dedup, List.mem_filter, decide_eq_true_iff]
  rw [List.mem_append, hcloned, livePlanes, List.map_append, List.mem_append, ← hheld]
  by_cases hm : share ∈ session.held.flatMap Buffer.shares <;> simp [hm]

/-- Every share is listed once. -/
theorem Balanced.nodup_shares (h : session.Balanced start) :
    (session.held.flatMap Buffer.shares ++ session.clonedOnly).Nodup := by
  refine List.Nodup.append ?_ (List.nodup_dedup _) ?_
  · exact List.nodup_flatMap.mpr ⟨fun buffer _ => List.nodup_dedup _, h.apart⟩
  · intro share hheld hcloned
    have hfilter := List.mem_filter.mp (List.mem_dedup.mp hcloned)
    exact absurd hheld (of_decide_eq_true hfilter.2)

/-- Sessions with the same buffers hold the same. -/
theorem held_congr (h : after.buffers = session.buffers) : session.held = after.held := by
  rw [held, ← h]
  rfl

/-- What is open is what was open at the start and what the session accounts for. -/
theorem Balanced.openDescriptors_perm (h : session.Balanced start) :
    session.platform.openDescriptors.Perm (start.openDescriptors ++ session.accountedFor) := by
  refine (h.accounted.openDescriptors_perm h.nodup_shares session.mem_shares_iff).trans ?_
  refine List.Perm.append_left _ ?_
  unfold accountedFor own
  rw [List.filterMap_append, List.filterMap_flatMap, ← List.append_assoc]
  exact (List.flatMap_append_perm _ _ _).append_right _

/-- As many descriptors are open as at the start and as the session accounts for. -/
theorem Balanced.openCount_eq (h : session.Balanced start) :
    session.platform.openCount = start.openCount +
      (session.held.map fun buffer =>
        buffer.handle.descriptors.length + buffer.duplicates).sum +
      session.clonedOnly.length := by
  have hlisted : ∀ share, share ∈ session.held.flatMap Buffer.shares ++ session.clonedOnly →
      share ∈ session.livePlanes.map Plane.share := fun share => (session.mem_shares_iff share).mp
  have hbuffers : ∀ buffer ∈ session.held,
      (buffer.handle.descriptors ++
        buffer.shares.filterMap session.platform.descriptorOf?).length =
      buffer.handle.descriptors.length + buffer.duplicates := by
    intro buffer hm
    rw [List.length_append, h.accounted.length_duplicates, h.duplicates buffer hm]
    intro share hshare
    exact hlisted share (List.mem_append_left _ (List.mem_flatMap.mpr ⟨buffer, hm, hshare⟩))
  have hcloned := h.accounted.length_duplicates fun share hm =>
    hlisted share (List.mem_append_right _ hm)
  have hlength := h.openDescriptors_perm.length_eq
  rw [accountedFor, List.length_append, List.length_append, List.length_flatMap, hcloned,
    List.map_congr_left hbuffers, Platform.length_openDescriptors,
    Platform.length_openDescriptors] at hlength
  omega

/-! ## One use -/

/-- A plane that is held twice measures the same both times. -/
theorem Balanced.measureShare_eq (h : session.Balanced start) (hafter : after.Balanced start)
    (hprecedes : session.platform.Precedes after.platform) {plane : Plane}
    (hm : plane ∈ session.livePlanes) (hm' : plane ∈ after.livePlanes) :
    ∃ bytes, (session.platform.measureShare plane.share).1 = .ok bytes ∧
      (after.platform.measureShare plane.share).1 = .ok bytes := by
  obtain ⟨bytes, hbytes⟩ := h.measured plane hm
  exact ⟨bytes, hbytes, h.accounted.measureShare_eq hafter.accounted hprecedes
    (List.mem_map_of_mem hm) (List.mem_map_of_mem hm') hbytes⟩

/-- A session that holds no new planes is balanced once its account is. -/
theorem Balanced.of_accounted (h : session.Balanced start)
    (haccounted : start.Accounted after.platform after.own (after.livePlanes.map Plane.share))
    (hprecedes : session.platform.Precedes after.platform) {gone : List Buffer}
    (hheld : session.held.Perm (gone ++ after.held))
    (hplanes : ∀ plane ∈ after.livePlanes, plane ∈ session.livePlanes) :
    after.Balanced start where
  accounted := haccounted
  apart := by
    have happart := (hheld.pairwise_iff fun hdisjoint => hdisjoint.symm).mp h.apart
    exact (List.pairwise_append.mp happart).2.1
  duplicates buffer hm := h.duplicates buffer (hheld.mem_iff.mpr (List.mem_append_right _ hm))
  measured plane hm := by
    obtain ⟨bytes, hbytes⟩ := h.measured plane (hplanes plane hm)
    exact ⟨bytes, h.accounted.measureShare_eq haccounted hprecedes
      (List.mem_map_of_mem (hplanes plane hm)) (List.mem_map_of_mem hm) hbytes⟩

/-- A session whose buffers did not change is balanced once its account is. -/
theorem Balanced.of_same_buffers (h : session.Balanced start)
    (hbuffers : after.buffers = session.buffers)
    (haccounted : start.Accounted after.platform session.own (after.livePlanes.map Plane.share))
    (hprecedes : session.platform.Precedes after.platform)
    (hplanes : ∀ plane ∈ after.livePlanes, plane ∈ session.livePlanes) :
    after.Balanced start := by
  have hheld := held_congr hbuffers
  have hown : session.own = after.own := by
    rw [own, hheld]
    rfl
  rw [hown] at haccounted
  have hperm : session.held.Perm ([] ++ after.held) := .of_eq hheld
  exact h.of_accounted haccounted hprecedes hperm hplanes

/-- What a use of a session keeps and does: it leaves a balanced session, on a platform where what
was there before is still there, and a handle that it gives back is closed last. -/
structure Next (start : Platform) (session after : Session σ) : Prop where
  balanced : after.Balanced start
  precedes : session.platform.Precedes after.platform
  frees : session.FreesLast start after

/-- Nothing is done. -/
theorem Balanced.next_refl (h : session.Balanced start) : session.Next start session :=
  ⟨h, .refl _, .nothing rfl⟩

/-- A handle is closed after whatever else is closed before it. -/
theorem frees_handle {own : List Descriptor} {owners : List Share} {handle : Handle}
    {found : Platform} (haccounted : start.Accounted found own owners)
    (hplatform : after.platform = found.closeHandle handle)
    (hfreed : Call.freed after.client.calls = Call.freed session.client.calls ++ [handle]) :
    session.FreesLast start after := by
  refine .returned handle found.closed.toList hfreed ?_ ?_
  · rw [hplatform, Platform.closed_closeHandle]
  · intro descriptor hnew hlt hnone hother
    rw [hplatform] at hlt hnone
    rw [Platform.closeHandle_descriptors_size] at hlt
    exact haccounted.closed_before_handle hnew hlt hnone hother

/-- A buffer that is allocated enters its handle and its planes. -/
theorem Balanced.next_allocated (h : session.Balanced start) {buffer : Buffer}
    {client : Client σ} (hleaves : Allocator.Leaves session.client (.ok buffer) client) :
    session.Next start
      { session with client := client, buffers := session.buffers.push (some buffer) } := by
  cases hleaves with
  | kept accounted precedes duplicates measured freed_eq =>
      have hheld : held { session with
          client := client, buffers := session.buffers.push (some buffer) } =
            session.held ++ [buffer] := by
        simp [held]
      have hplanes : session.livePlanes ++ buffer.planes |>.Perm (livePlanes { session with
          client := client, buffers := session.buffers.push (some buffer) }) := by
        rw [livePlanes, livePlanes, hheld, List.flatMap_append, List.flatMap_singleton,
          List.append_assoc, List.append_assoc]
        exact List.perm_append_comm.append_left _
      have haccounted := h.accounted.trans accounted
      rw [← List.map_append] at haccounted
      have hown : session.own ++ buffer.handle.descriptors = own { session with
          client := client, buffers := session.buffers.push (some buffer) } := by
        rw [own, own, hheld, List.flatMap_append, List.flatMap_singleton]
      have hafter := haccounted.perm (.of_eq hown) (hplanes.map Plane.share)
      refine ⟨⟨hafter, ?_, ?_, ?_⟩, precedes, .nothing freed_eq⟩
      · -- the shares of the new buffer are behind all that were there
        rw [hheld, List.pairwise_append]
        refine ⟨h.apart, List.pairwise_singleton _ _, fun other hother _ hm share hold hnew => ?_⟩
        cases List.mem_singleton.mp hm
        have hlisted := (session.mem_shares_iff share).mp
          (List.mem_append_left _ (List.mem_flatMap.mpr ⟨other, hother, hold⟩))
        have hlt := h.accounted.share_lt hlisted
        have hge := accounted.owners_new share (List.mem_dedup.mp hnew)
        exact absurd hge (Nat.not_le_of_lt hlt)
      · intro other hm
        rw [hheld, List.mem_append, List.mem_singleton] at hm
        rcases hm with hm | rfl
        · exact h.duplicates other hm
        · exact duplicates
      · intro plane hm
        rcases List.mem_append.mp (hplanes.mem_iff.mpr hm) with hold | hnew
        · obtain ⟨bytes, hbytes⟩ := h.measured plane hold
          exact ⟨bytes, h.accounted.measureShare_eq hafter precedes (List.mem_map_of_mem hold)
            (List.mem_map_of_mem hm) hbytes⟩
        · exact measured plane hnew

/-- An allocation that fails leaves nothing open. -/
theorem Balanced.next_failed (h : session.Balanced start) {failure : Failure}
    {client : Client σ} (hleaves : Allocator.Leaves session.client (.error failure) client) :
    session.Next start { session with client := client } := by
  cases hleaves with
  | nothing platform_eq freed_eq =>
      have hplatform : platform { session with client := client } = session.platform := platform_eq
      have hprecedes : session.platform.Precedes (platform { session with client := client }) :=
        hplatform ▸ .refl _
      have haccounted := h.accounted
      rw [← hplatform] at haccounted
      exact ⟨h.of_same_buffers rfl haccounted hprecedes fun _ hm => hm, hprecedes,
        .nothing freed_eq⟩
  | @returned _ _ handle found accounted precedes platform_eq freed_eq =>
      have hplatform : platform { session with client := client } = found.closeHandle handle :=
        platform_eq
      have hfound := (h.accounted.trans accounted).perm List.perm_append_comm
        (.of_eq (List.append_nil _))
      have haccounted := hfound.closeHandle
      have hprecedes := precedes.trans (found.closeHandle_precedes handle)
      rw [← hplatform] at haccounted hprecedes
      exact ⟨h.of_same_buffers rfl haccounted hprecedes fun _ hm => hm, hprecedes,
        frees_handle hfound hplatform freed_eq⟩

/-- A buffer that is dropped lets go of its planes, and then its handle is closed. -/
theorem Balanced.next_dropped (h : session.Balanced start) {slot : Nat} {buffer : Buffer}
    (hpresent : session.buffer? slot = some buffer)
    (hplatform : after.platform =
      (session.platform.releasePlanes buffer.planes).closeHandle buffer.handle)
    (hbuffers : after.buffers = session.buffers.setIfInBounds slot none)
    (hkept : after.kept = session.kept)
    (hfreed : Call.freed after.client.calls =
      Call.freed session.client.calls ++ [buffer.handle]) : session.Next start after := by
  have hheld : session.held.Perm ([buffer] ++ after.held) := by
    have hperm := held_perm_of_buffer? hpresent
    rwa [← hbuffers] at hperm
  have hown : session.own.Perm (buffer.handle.descriptors ++ after.own) := by
    have hperm := hheld.flatMap_right fun buffer : Buffer => buffer.handle.descriptors
    rwa [List.flatMap_append, List.flatMap_singleton] at hperm
  have hplanes : session.livePlanes.Perm (buffer.planes ++ after.livePlanes) := by
    have hperm := (hheld.flatMap_right Buffer.planes).append_right session.kept
    rw [livePlanes, livePlanes, hkept]
    rwa [List.flatMap_append, List.flatMap_singleton, List.append_assoc] at hperm
  have hstarted := h.accounted.perm hown (hplanes.map Plane.share)
  rw [List.map_append] at hstarted
  have hreleased := hstarted.releasePlanes
  have haccounted := hreleased.closeHandle
  have hprecedes := (session.platform.releasePlanes_precedes buffer.planes).trans
    (Platform.closeHandle_precedes _ buffer.handle)
  rw [← hplatform] at haccounted hprecedes
  refine ⟨h.of_accounted haccounted hprecedes hheld fun plane hm => ?_, hprecedes,
    frees_handle hreleased hplatform hfreed⟩
  exact hplanes.mem_iff.mpr (List.mem_append_right _ hm)

/-- Planes that are cloned get an owner more. -/
theorem Balanced.next_cloned (h : session.Balanced start) {planes : List Plane}
    (hlive : ∀ plane ∈ planes, plane ∈ session.livePlanes)
    (hplatform : after.platform = session.platform.retainPlanes planes)
    (hbuffers : after.buffers = session.buffers) (hkept : after.kept = session.kept ++ planes)
    (hcalls : after.client.calls = session.client.calls) : session.Next start after := by
  have hplanes : after.livePlanes = session.livePlanes ++ planes := by
    rw [livePlanes, livePlanes, held_congr hbuffers, hkept, List.append_assoc]
  have haccounted := h.accounted.retainPlanes fun plane hm => List.mem_map_of_mem (hlive plane hm)
  have hprecedes := session.platform.retainPlanes_precedes planes
  rw [← hplatform] at haccounted hprecedes
  rw [← List.map_append, ← hplanes] at haccounted
  refine ⟨h.of_same_buffers hbuffers haccounted hprecedes fun plane hm => ?_, hprecedes,
    .nothing (hcalls ▸ rfl)⟩
  rw [hplanes] at hm
  rcases List.mem_append.mp hm with hm | hm
  · exact hm
  · exact hlive plane hm

/-- Cloned planes that are dropped have an owner less. -/
theorem Balanced.next_let_go (h : session.Balanced start) {planes : List Plane}
    (hkept : session.kept.Perm (planes ++ after.kept))
    (hplatform : after.platform = session.platform.releasePlanes planes)
    (hbuffers : after.buffers = session.buffers)
    (hcalls : after.client.calls = session.client.calls) : session.Next start after := by
  have hplanes : session.livePlanes.Perm (planes ++ after.livePlanes) := by
    refine (hkept.append_left (session.held.flatMap Buffer.planes)).trans ?_
    rw [livePlanes, held_congr hbuffers, ← List.append_assoc, ← List.append_assoc]
    exact List.perm_append_comm.append_right _
  have hstarted := h.accounted.perm (.refl _) (hplanes.map Plane.share)
  rw [List.map_append] at hstarted
  have haccounted := hstarted.releasePlanes
  have hprecedes := session.platform.releasePlanes_precedes planes
  rw [← hplatform] at haccounted hprecedes
  refine ⟨h.of_same_buffers hbuffers haccounted hprecedes fun plane hm => ?_, hprecedes,
    .nothing (hcalls ▸ rfl)⟩
  exact hplanes.mem_iff.mpr (List.mem_append_right _ hm)

/-- The planes of a buffer that is held are live. -/
theorem live_of_buffer? {slot : Nat} {buffer : Buffer}
    (h : session.buffer? slot = some buffer) {plane : Plane} (hm : plane ∈ buffer.planes) :
    plane ∈ session.livePlanes := by
  have hheld := (held_perm_of_buffer? h).mem_iff.mpr List.mem_cons_self
  exact List.mem_append_left _ (List.mem_flatMap.mpr ⟨buffer, hheld, hm⟩)

/-- A use keeps a session balanced, keeps what was on the platform, and closes a handle that it
gives back last. -/
theorem Balanced.use (h : session.Balanced start) (allocator : Allocator σ) (use : Use) :
    session.Next start (session.use allocator use) := by
  cases use with
  | perform action =>
      show session.Next start (session.perform allocator action).2
      have hperforms := perform_performs allocator session action
      generalize (session.perform allocator action).1 = outcome at hperforms
      generalize (session.perform allocator action).2 = next at hperforms
      cases hperforms with
      | allocated ends => exact h.next_allocated ends.leaves
      | failed ends => exact h.next_failed ends.leaves
      | dropped present returned =>
          exact h.next_dropped present rfl rfl rfl (Allocator.freed_later ..)
      | notDropped => exact h.next_refl
      | cloned present =>
          exact h.next_cloned (fun plane => live_of_buffer? present) rfl rfl rfl (by simp)
      | notCloned => exact h.next_refl
      | forgotten =>
          exact h.next_let_go (.of_eq (List.append_nil session.kept).symm) rfl rfl (by simp)
  | clone slot index =>
      cases hplane : session.plane? slot index with
      | none =>
          rw [Session.use, hplane]
          exact h.next_refl
      | some plane =>
          obtain ⟨buffer, hbuffer, hm⟩ := Option.bind_eq_some_iff.mp hplane
          have hlive : ∀ other ∈ [plane], other ∈ session.livePlanes := by
            intro other hother
            rw [List.mem_singleton.mp hother]
            exact live_of_buffer? hbuffer (List.mem_of_getElem? hm)
          rw [Session.use, hplane]
          exact h.next_cloned hlive rfl rfl rfl rfl
  | letGo index =>
      cases hplane : session.kept[index]? with
      | none =>
          rw [Session.use, hplane]
          exact h.next_refl
      | some plane =>
          obtain ⟨hlt, heq⟩ := List.getElem?_eq_some_iff.mp hplane
          have hkept : session.kept.Perm ([plane] ++ session.kept.eraseIdx index) := by
            rw [← heq]
            exact (List.getElem_cons_eraseIdx_perm hlt).symm
          rw [Session.use, hplane]
          exact h.next_let_go hkept rfl rfl rfl

/-! ## All uses -/

/-- A new session holds nothing. -/
theorem balanced_new (client : Client σ) : Balanced client.world.platform { client := client } where
  accounted := (Platform.Opened.refl client.world.platform).accounted
  apart := .nil
  duplicates _ hm := absurd hm List.not_mem_nil
  measured _ hm := absurd hm List.not_mem_nil

/-- Any uses keep a session balanced, and keep what was on the platform. -/
theorem Balanced.useAll (h : session.Balanced start) (allocator : Allocator σ)
    (uses : List Use) :
    (session.useAll allocator uses).Balanced start ∧
      session.platform.Precedes (session.useAll allocator uses).platform := by
  induction uses generalizing session with
  | nil => exact ⟨h, .refl _⟩
  | cons use rest ih =>
      have hnext := h.use allocator use
      obtain ⟨hbalanced, hprecedes⟩ := ih hnext.balanced
      exact ⟨hbalanced, hnext.precedes.trans hprecedes⟩

/-- Dropping a buffer drops no clone. -/
theorem kept_drop (allocator : Allocator σ) (session : Session σ) (slot : Nat) :
    (session.perform allocator (.drop slot)).2.kept = session.kept := by
  rw [perform]
  cases session.buffer? slot <;> rfl

/-- However a session is used and whatever its service answers, the descriptors that are open are
those that were open before it and those that it accounts for: the descriptors of each buffer's
handle, as many duplicates as the buffer needs, and one for each share that only clones have. An
allocation that fails leaves open what was open. Whenever a handle is given back, all that came to
be in the session and is not open afterwards was closed before the handle was. And a plane that a
buffer or a clone has measures the same as long as one has it; dropping buffers leaves the
clones. -/
theorem useAll_descriptors (allocator : Allocator σ) (world : World) (service : σ)
    (uses : List Use) :
    let session :=
      useAll allocator { client := { world := world, service := service } } uses
    session.platform.openDescriptors.Perm
        (world.platform.openDescriptors ++ session.accountedFor) ∧
      (∀ buffer ∈ session.held, buffer.shares.length = buffer.duplicates) ∧
      session.platform.openCount = world.platform.openCount +
        (session.held.map fun buffer =>
          buffer.handle.descriptors.length + buffer.duplicates).sum +
        session.clonedOnly.length ∧
      (∀ code size usage failure,
        (allocator.allocate code size usage session.client).1 = .error failure →
        (allocator.allocate code size usage session.client).2.world.platform.openDescriptors =
          session.platform.openDescriptors) ∧
      (∀ use, session.FreesLast world.platform (session.use allocator use)) ∧
      (∀ slot, (session.use allocator (.perform (.drop slot))).kept = session.kept) ∧
      ∀ more, ∀ plane ∈ session.livePlanes,
        plane ∈ (session.useAll allocator more).livePlanes →
        ∃ bytes, (session.platform.measureShare plane.share).1 = .ok bytes ∧
          ((session.useAll allocator more).platform.measureShare plane.share).1 = .ok bytes := by
  intro session
  have hbalanced : session.Balanced world.platform :=
    ((balanced_new { world := world, service := service }).useAll allocator uses).1
  refine ⟨hbalanced.openDescriptors_perm, hbalanced.duplicates, hbalanced.openCount_eq, ?_,
    fun use => (hbalanced.use allocator use).frees, kept_drop allocator session, ?_⟩
  · intro code size usage failure hfailed
    have hleaves := (allocator.allocate_allocates code size usage session.client).leaves
    rw [hfailed] at hleaves
    exact hleaves.openDescriptors_eq
  · intro more plane hm hm'
    obtain ⟨hlater, hprecedes⟩ := hbalanced.useAll allocator more
    exact hbalanced.measureShare_eq hlater hprecedes hm hm'

end Session

end PixelBuffer
