import PixelBuffer.Proofs.Platform.Ledger

/-!
# Entries of the account

A handle that is opened and a search for planes each come with an account of what they leave open
(`Platform.Opened.accounted`, `Platform.Grown.accounted`). Adding an owner, removing one and closing
a descriptor are entered. `Platform.Accounted.release` is where a duplicate is closed: the last
owner has it alone, and then closes it. A handle is closed after all that is closed before it
(`Platform.Accounted.closed_before_handle`).
-/

namespace PixelBuffer

namespace Platform

/-! ## What comes with an account -/

section

variable {start now : Platform}

/-- A handle that is opened owns its descriptors alone. -/
theorem Opened.accounted {opened : List Descriptor} (h : start.Opened now opened) :
    start.Accounted now opened [] := by
  have hsize := h.descriptors_size
  have hopened : ∀ descriptor, start.descriptors.size ≤ descriptor.number →
      descriptor.number < now.descriptors.size → descriptor ∈ opened := by
    intro descriptor hnew hlt
    have hnumber : descriptor.number ∈ opened.map Descriptor.number := by
      rw [h.numbers, List.mem_range'_1]
      omega
    obtain ⟨same, hm, heq⟩ := List.mem_map.mp hnumber
    cases same
    cases descriptor
    cases heq
    exact hm
  constructor
  case descriptors_size => omega
  case holdings_size => exact Nat.le_of_eq (congrArg Array.size h.holdings).symm
  case descriptors => exact h.old
  case holdings => exact fun number _ => by rw [h.holdings]
  case own_nodup => exact h.nodup
  case own_new => exact fun descriptor hm => (h.number_bounds hm).1
  case owners_new => exact fun _ hm => absurd hm List.not_mem_nil
  case counted =>
    intro number hnew hlt
    rw [h.holdings] at hlt
    omega
  case duplicate => exact fun _ hm => absurd hm List.not_mem_nil
  case distinct => exact fun _ hm => absurd hm List.not_mem_nil
  case open_iff =>
    intro descriptor hnew
    simp only [List.not_mem_nil, false_and, exists_false, or_false]
    exact ⟨fun hopen => hopened descriptor hnew (number_lt_of_isOpen hopen), h.isOpen descriptor⟩
  case closed =>
    refine ⟨[], by simp [h.closed], fun descriptor => ?_⟩
    simp only [List.not_mem_nil, false_iff]
    rintro ⟨hnew, hlt, hnone⟩
    have hopen := h.isOpen descriptor (hopened descriptor hnew hlt)
    rw [hnone] at hopen
    cases hopen

/-- A duplicate is open exactly while its share is held. -/
theorem Grown.isOpen_iff {opened rewound : List Nat} {held : List Share}
    (h : start.Grown now opened rewound held) {index : Nat} (hindex : index < opened.length) :
    (now.openFile? ⟨start.descriptors.size + index⟩).isSome ↔
      ⟨start.holdings.size + index⟩ ∈ held := by
  unfold openFile?
  rw [h.descriptor index _ (List.getElem?_eq_getElem hindex), ← List.count_pos_iff]
  by_cases hnone : held.count ⟨start.holdings.size + index⟩ = 0
  · simp [hnone]
  · simp [hnone, Nat.pos_of_ne_zero hnone]

/-- A search for planes leaves the duplicates that it holds. -/
theorem Grown.accounted {opened rewound : List Nat} {held : List Share}
    (h : start.Grown now opened rewound held) : start.Accounted now [] held := by
  have hdescriptors := h.descriptors_size
  have hholdings := h.holdings_size
  constructor
  case descriptors_size => omega
  case holdings_size => omega
  case descriptors => exact h.descriptors
  case holdings => exact h.holdings
  case own_nodup => exact List.nodup_nil
  case own_new => exact fun _ hm => absurd hm List.not_mem_nil
  case owners_new =>
    intro share hm
    obtain ⟨index, -, rfl⟩ := h.held_new share hm
    exact Nat.le_add_right _ _
  case counted =>
    intro number hnew hlt
    obtain ⟨index, rfl⟩ := Nat.exists_eq_add_of_le hnew
    exact ⟨_, h.holding index (by omega)⟩
  case duplicate =>
    intro share hm
    obtain ⟨index, hindex, rfl⟩ := h.held_new share hm
    exact ⟨_, h.descriptorOf?_held hindex, Nat.le_add_right _ _, List.not_mem_nil⟩
  case distinct =>
    intro share hm other hother heq
    obtain ⟨index, hindex, rfl⟩ := h.held_new share hm
    obtain ⟨index', hindex', rfl⟩ := h.held_new other hother
    rw [h.descriptorOf?_held hindex, h.descriptorOf?_held hindex'] at heq
    simp only [Option.some.injEq, Descriptor.mk.injEq] at heq
    rw [Nat.add_left_cancel heq]
  case open_iff =>
    intro descriptor hnew
    simp only [List.not_mem_nil, false_or]
    constructor
    · intro hopen
      have hlt := number_lt_of_isOpen hopen
      obtain ⟨number⟩ := descriptor
      obtain ⟨index, rfl⟩ := Nat.exists_eq_add_of_le hnew
      have hindex : index < opened.length := by
        dsimp only at hlt
        omega
      exact ⟨_, (h.isOpen_iff hindex).mp hopen, h.descriptorOf?_held hindex⟩
    · rintro ⟨share, hm, hdescriptor⟩
      obtain ⟨index, hindex, rfl⟩ := h.held_new share hm
      cases (h.descriptorOf?_held hindex).symm.trans hdescriptor
      exact (h.isOpen_iff hindex).mpr hm
  case closed =>
    obtain ⟨gone, hclosed, hgone⟩ := h.closed
    refine ⟨gone, hclosed, fun descriptor => (hgone descriptor).trans ?_⟩
    simp only [List.count_eq_zero, ← Option.not_isSome_iff_eq_none]
    constructor
    · rintro ⟨index, hindex, rfl, hnone⟩
      refine ⟨Nat.le_add_right _ _, ?_, (h.isOpen_iff hindex).not.mpr hnone⟩
      dsimp only
      omega
    · rintro ⟨hnew, hlt, hnone⟩
      obtain ⟨number⟩ := descriptor
      obtain ⟨index, rfl⟩ := Nat.exists_eq_add_of_le hnew
      have hindex : index < opened.length := by
        dsimp only at hlt
        omega
      exact ⟨index, hindex, rfl, (h.isOpen_iff hindex).not.mp hnone⟩

end

/-! ## Single changes -/

/-- The platform with another count of owners, before anything is closed. -/
def recount (platform : Platform) (share : Share) (holding : Holding) : Platform :=
  { platform with holdings := platform.holdings.setIfInBounds share.holding holding }

/-- An owner more changes no descriptor behind a share. -/
theorem descriptorOf?_retain (platform : Platform) (share other : Share) :
    (platform.retain share).descriptorOf? other = platform.descriptorOf? other := by
  unfold descriptorOf? Platform.retain
  rw [Array.getElem?_modify]
  split
  · rw [Option.map_map]
    rfl
  · rfl

/-- A new holding leads to the descriptor that was put under it. -/
theorem descriptorOf?_adopt (platform : Platform) (descriptor : Descriptor) :
    (platform.adopt descriptor).2.descriptorOf? ⟨platform.holdings.size⟩ = some descriptor := by
  simp [descriptorOf?, adopt]

/-- A descriptor of no handle that is closed refers to what it did. -/
theorem openFile?_closeHandle (platform : Platform) {handle : Handle} {descriptor : Descriptor}
    (h : descriptor ∉ handle.descriptors) :
    (platform.closeHandle handle).openFile? descriptor = platform.openFile? descriptor := by
  unfold Platform.closeHandle
  generalize handle.descriptors = descriptors at h
  induction descriptors generalizing platform with
  | nil => rfl
  | cons first rest ih =>
      rw [List.mem_cons, not_or] at h
      obtain ⟨hne, hrest⟩ := h
      rw [List.foldl_cons, ih _ hrest, openFile?_close, if_neg hne]

/-- The descriptors of a handle are closed in order. -/
theorem closed_closeHandle (platform : Platform) (handle : Handle) :
    (platform.closeHandle handle).closed.toList =
      platform.closed.toList ++ handle.descriptors := by
  unfold Platform.closeHandle
  induction handle.descriptors generalizing platform with
  | nil => simp
  | cons first rest ih =>
      rw [List.foldl_cons, ih]
      simp [Platform.close]

namespace Accounted

variable {start now : Platform} {own : List Descriptor} {owners : List Share}

/-- A further owner is entered. -/
theorem retain (h : start.Accounted now own owners) {share : Share} (hm : share ∈ owners) :
    start.Accounted (now.retain share) own (share :: owners) := by
  have hmem : ∀ other, other ∈ share :: owners ↔ other ∈ owners := by
    intro other
    rw [List.mem_cons, or_iff_right_of_imp]
    rintro rfl
    exact hm
  have hsame := now.descriptorOf?_retain share
  constructor
  case descriptors_size => exact h.descriptors_size
  case holdings_size =>
    show _ ≤ (now.holdings.modify _ _).size
    rw [Array.size_modify]
    exact h.holdings_size
  case descriptors => exact h.descriptors
  case holdings =>
    intro number hnumber
    have hnew := h.owners_new share hm
    show (now.holdings.modify _ _)[number]? = _
    rw [Array.getElem?_modify, if_neg (by omega), h.holdings number hnumber]
  case own_nodup => exact h.own_nodup
  case own_new => exact h.own_new
  case owners_new => exact fun other hother => h.owners_new other ((hmem other).mp hother)
  case counted =>
    intro number hnew hlt
    have hlt : number < now.holdings.size := by simpa [Platform.retain] using hlt
    obtain ⟨descriptor, hholding⟩ := h.counted number hnew hlt
    refine ⟨descriptor, ?_⟩
    show (now.holdings.modify _ _)[number]? = _
    rw [Array.getElem?_modify, hholding]
    by_cases heq : share.holding = number
    · subst heq
      simp
    · rw [if_neg heq, List.count_cons_of_ne (by rintro rfl; exact heq rfl)]
  case duplicate =>
    intro other hother
    rw [hsame]
    exact h.duplicate other ((hmem other).mp hother)
  case distinct =>
    intro other hother another hanother heq
    rw [hsame, hsame] at heq
    exact h.distinct other ((hmem other).mp hother) another ((hmem another).mp hanother) heq
  case open_iff =>
    intro descriptor hnew
    simp only [hmem, hsame]
    exact h.open_iff descriptor hnew
  case closed => exact h.closed

/-- A descriptor that was owned alone is closed. -/
theorem close {descriptor : Descriptor} (h : start.Accounted now (descriptor :: own) owners) :
    start.Accounted (now.close descriptor) own owners := by
  have hnew := h.own_new descriptor List.mem_cons_self
  have hsize : (now.close descriptor).descriptors.size = now.descriptors.size :=
    Array.size_setIfInBounds
  obtain ⟨hapart, hnodup⟩ := List.nodup_cons.mp h.own_nodup
  constructor
  case descriptors_size => exact hsize ▸ h.descriptors_size
  case holdings_size => exact h.holdings_size
  case descriptors =>
    intro number hnumber
    rw [descriptors_close, if_neg (by omega), h.descriptors number hnumber]
  case holdings => exact h.holdings
  case own_nodup => exact hnodup
  case own_new => exact fun other hm => h.own_new other (List.mem_cons_of_mem _ hm)
  case owners_new => exact h.owners_new
  case counted => exact h.counted
  case duplicate =>
    intro share hm
    obtain ⟨other, hother, hnew, hown⟩ := h.duplicate share hm
    exact ⟨other, hother, hnew, fun hm => hown (List.mem_cons_of_mem _ hm)⟩
  case distinct => exact h.distinct
  case open_iff =>
    intro other hother
    rw [openFile?_close]
    by_cases heq : other = descriptor
    · subst heq
      simp only [if_true, Option.isSome_none, Bool.false_eq_true, false_iff, not_or]
      refine ⟨hapart, ?_⟩
      rintro ⟨share, hm, hdescriptor⟩
      obtain ⟨same, hsame, -, hown⟩ := h.duplicate share hm
      cases hsame.symm.trans hdescriptor
      exact hown List.mem_cons_self
    · rw [if_neg heq, h.open_iff other hother, List.mem_cons, or_iff_right heq]
      rfl
  case closed => exact h.closed.close hnew (h.own_lt List.mem_cons_self)

/-- The descriptors of a handle that is closed leave the account. -/
theorem closeHandle {handle : Handle}
    (h : start.Accounted now (handle.descriptors ++ own) owners) :
    start.Accounted (now.closeHandle handle) own owners := by
  unfold Platform.closeHandle
  generalize handle.descriptors = descriptors at h
  induction descriptors generalizing now with
  | nil => exact h
  | cons descriptor rest ih => exact ih h.close

/-- When a handle is closed, whatever else is not open by then was closed before it. -/
theorem closed_before_handle (h : start.Accounted now own owners) {handle : Handle}
    {descriptor : Descriptor} (hnew : start.descriptors.size ≤ descriptor.number)
    (hlt : descriptor.number < now.descriptors.size)
    (hnone : (now.closeHandle handle).openFile? descriptor = none)
    (hother : descriptor ∉ handle.descriptors) : descriptor ∈ now.closed.toList := by
  obtain ⟨gone, hclosed, hgone⟩ := h.closed
  rw [openFile?_closeHandle now hother] at hnone
  rw [hclosed, Array.toList_append]
  exact List.mem_append_right _ ((hgone descriptor).mpr ⟨hnew, hlt, hnone⟩)

section

variable {share : Share} {descriptor : Descriptor}

/-- A holding counts as many owners as are listed. -/
theorem holding_eq (h : start.Accounted now own owners) (hm : share ∈ owners)
    (hdescriptor : now.descriptorOf? share = some descriptor) :
    now.holdings[share.holding]? = some ⟨descriptor, owners.count share⟩ := by
  obtain ⟨same, hholding⟩ := h.counted share.holding (h.owners_new share hm) (h.share_lt hm)
  unfold descriptorOf? at hdescriptor
  rw [hholding] at hdescriptor
  cases hdescriptor
  exact hholding

/-- An owner less changes no descriptor behind a share. -/
theorem descriptorOf?_recount
    (hholding : now.holdings[share.holding]? = some ⟨descriptor, owners.count share⟩)
    (other : Share) :
    (now.recount share ⟨descriptor, owners.count share - 1⟩).descriptorOf? other =
      now.descriptorOf? other := by
  obtain ⟨hlt, -⟩ := Array.getElem?_eq_some_iff.mp hholding
  show (now.holdings.setIfInBounds _ _)[other.holding]?.map _ = now.holdings[other.holding]?.map _
  rw [Array.getElem?_setIfInBounds]
  by_cases heq : share.holding = other.holding
  · rw [if_pos heq, if_pos hlt, ← heq, hholding]
    rfl
  · rw [if_neg heq]

/-- The counts are right for the owners that are left. -/
theorem counted_recount (h : start.Accounted now own owners)
    (hholding : now.holdings[share.holding]? = some ⟨descriptor, owners.count share⟩)
    (number : Nat) (hnew : start.holdings.size ≤ number)
    (hlt : number < (now.recount share ⟨descriptor, owners.count share - 1⟩).holdings.size) :
    ∃ same, (now.recount share ⟨descriptor, owners.count share - 1⟩).holdings[number]? =
      some ⟨same, (owners.erase share).count ⟨number⟩⟩ := by
  have hlt : number < now.holdings.size := by simpa [recount] using hlt
  show ∃ same, (now.holdings.setIfInBounds _ _)[number]? = _
  rw [Array.getElem?_setIfInBounds]
  by_cases heq : share.holding = number
  · subst heq
    rw [if_pos rfl, if_pos hlt]
    exact ⟨descriptor, by rw [List.count_erase_self]⟩
  · rw [if_neg heq, List.count_erase_of_ne (by rintro rfl; exact heq rfl)]
    exact h.counted number hnew hlt

/-- The account of a platform with one owner less, once it is known which descriptors are owned
alone then and which shares still have owners. -/
theorem of_recount (h : start.Accounted now own owners) (hm : share ∈ owners)
    (hdescriptor : now.descriptorOf? share = some descriptor) {freed : List Descriptor}
    (hnodup : (freed ++ own).Nodup)
    (hfreed : ∀ other, other ∈ freed ↔ other = descriptor ∧ share ∉ owners.erase share)
    (hleft : ∀ other ∈ owners, other ∈ owners.erase share ∨ other = share) :
    start.Accounted (now.recount share ⟨descriptor, owners.count share - 1⟩) (freed ++ own)
      (owners.erase share) := by
  have hholding := h.holding_eq hm hdescriptor
  have hsame := descriptorOf?_recount hholding
  have hof : ∀ other ∈ owners.erase share, other ∈ owners := fun _ => List.mem_of_mem_erase
  have hnew : start.descriptors.size ≤ descriptor.number := by
    obtain ⟨same, hsame, hnew, -⟩ := h.duplicate share hm
    cases hsame.symm.trans hdescriptor
    exact hnew
  constructor
  case descriptors_size => exact h.descriptors_size
  case holdings_size =>
    show _ ≤ (now.holdings.setIfInBounds _ _).size
    rw [Array.size_setIfInBounds]
    exact h.holdings_size
  case descriptors => exact h.descriptors
  case holdings =>
    intro number hnumber
    have hshare := h.owners_new share hm
    show (now.holdings.setIfInBounds _ _)[number]? = _
    rw [Array.getElem?_setIfInBounds, if_neg (by omega), h.holdings number hnumber]
  case own_nodup => exact hnodup
  case own_new =>
    intro other hother
    rcases List.mem_append.mp hother with hother | hother
    · rw [((hfreed other).mp hother).1]
      exact hnew
    · exact h.own_new other hother
  case owners_new => exact fun other hother => h.owners_new other (hof other hother)
  case counted => exact h.counted_recount hholding
  case duplicate =>
    intro other hother
    rw [hsame]
    obtain ⟨own', hown', hnew, hapart⟩ := h.duplicate other (hof other hother)
    refine ⟨own', hown', hnew, ?_⟩
    rw [List.mem_append, not_or]
    refine ⟨fun hfree => ?_, hapart⟩
    obtain ⟨rfl, hgone⟩ := (hfreed own').mp hfree
    have heq := h.distinct other (hof other hother) share hm (hown'.trans hdescriptor.symm)
    exact hgone (heq ▸ hother)
  case distinct =>
    intro other hother another hanother heq
    rw [hsame, hsame] at heq
    exact h.distinct other (hof other hother) another (hof another hanother) heq
  case open_iff =>
    intro other hother
    simp only [hsame, List.mem_append, hfreed]
    refine (h.open_iff other hother).trans ?_
    constructor
    · rintro (hown | ⟨owner, howner, heq⟩)
      · exact .inl (.inr hown)
      · rcases hleft owner howner with hleft | rfl
        · exact .inr ⟨owner, hleft, heq⟩
        · by_cases hmore : owner ∈ owners.erase owner
          · exact .inr ⟨owner, hmore, heq⟩
          · exact .inl (.inl ⟨Option.some.inj (heq.symm.trans hdescriptor), hmore⟩)
    · rintro ((⟨rfl, -⟩ | hown) | ⟨owner, howner, heq⟩)
      · exact .inr ⟨share, hm, hdescriptor⟩
      · exact .inl hown
      · exact .inr ⟨owner, hof owner howner, heq⟩
  case closed => exact h.closed

end

/-- An owner less is entered. The last owner has the duplicate alone and closes it. -/
theorem release (h : start.Accounted now own owners) {share : Share} (hm : share ∈ owners) :
    start.Accounted (now.release share) own (owners.erase share) := by
  obtain ⟨descriptor, hdescriptor, -, hown⟩ := h.duplicate share hm
  have hholding := h.holding_eq hm hdescriptor
  have hpos := List.count_pos_iff.mpr hm
  have hleft : ∀ other ∈ owners, other ∈ owners.erase share ∨ other = share := by
    intro other hother
    by_cases heq : other = share
    · exact .inr heq
    · exact .inl ((List.mem_erase_of_ne heq).mpr hother)
  have hgone : share ∉ owners.erase share ↔ owners.count share = 1 := by
    rw [← List.count_pos_iff, List.count_erase_self]
    omega
  let less := now.recount share ⟨descriptor, owners.count share - 1⟩
  unfold Platform.release
  rw [hholding]
  by_cases hlast : owners.count share = 1
  · have halone : start.Accounted less ([descriptor] ++ own) (owners.erase share) := by
      refine h.of_recount hm hdescriptor (List.nodup_cons.mpr ⟨hown, h.own_nodup⟩) ?_ hleft
      simp [hgone, hlast]
    have hclosed : start.Accounted (less.close descriptor) own (owners.erase share) :=
      Accounted.close halone
    unfold less recount at hclosed
    simpa only [hlast, if_true] using hclosed
  · have hshared : start.Accounted less ([] ++ own) (owners.erase share) := by
      refine h.of_recount hm hdescriptor h.own_nodup ?_ hleft
      simp [hgone, hlast]
    simp only [hlast, if_false]
    exact hshared

/-- A descriptor that was owned alone is put under a holding with one owner. -/
theorem adopt {descriptor : Descriptor} (h : start.Accounted now (descriptor :: own) owners) :
    start.Accounted (now.adopt descriptor).2 own (⟨now.holdings.size⟩ :: owners) := by
  obtain ⟨hapart, hnodup⟩ := List.nodup_cons.mp h.own_nodup
  have hsize := h.holdings_size
  have hfresh : (⟨now.holdings.size⟩ : Share) ∉ owners := fun hm =>
    Nat.lt_irrefl _ (h.share_lt hm)
  have hself := now.descriptorOf?_adopt descriptor
  have hold : ∀ share ∈ owners,
      (now.adopt descriptor).2.descriptorOf? share = now.descriptorOf? share := by
    intro share hm
    have hlt := h.share_lt hm
    show (now.holdings.push _)[share.holding]?.map _ = _
    rw [Array.getElem?_push, if_neg (by omega)]
    rfl
  -- no share of before leads to a descriptor that was owned alone
  have hother : ∀ share ∈ owners, now.descriptorOf? share ≠ some descriptor := by
    intro share hm heq
    obtain ⟨same, hsame, -, hown⟩ := h.duplicate share hm
    cases hsame.symm.trans heq
    exact hown List.mem_cons_self
  constructor
  case descriptors_size => exact h.descriptors_size
  case holdings_size =>
    show _ ≤ (now.holdings.push _).size
    rw [Array.size_push]
    omega
  case descriptors => exact h.descriptors
  case holdings =>
    intro number hnumber
    show (now.holdings.push _)[number]? = _
    rw [Array.getElem?_push, if_neg (by omega), h.holdings number hnumber]
  case own_nodup => exact hnodup
  case own_new => exact fun other hm => h.own_new other (List.mem_cons_of_mem _ hm)
  case owners_new =>
    intro share hm
    rcases List.mem_cons.mp hm with rfl | hm
    · exact hsize
    · exact h.owners_new share hm
  case counted =>
    intro number hnew hlt
    have hlt : number < now.holdings.size + 1 := by simpa [Platform.adopt] using hlt
    show ∃ same, (now.holdings.push _)[number]? = _
    rw [Array.getElem?_push]
    by_cases heq : number = now.holdings.size
    · subst heq
      rw [if_pos rfl, List.count_cons_self, List.count_eq_zero_of_not_mem hfresh]
      exact ⟨descriptor, rfl⟩
    · rw [if_neg heq, List.count_cons_of_ne (by simp [Ne.symm heq])]
      exact h.counted number hnew (by omega)
  case duplicate =>
    intro share hm
    rcases List.mem_cons.mp hm with rfl | hm
    · exact ⟨descriptor, hself, h.own_new descriptor List.mem_cons_self, hapart⟩
    · obtain ⟨other, hleads, hnew, hown⟩ := h.duplicate share hm
      exact ⟨other, (hold share hm).trans hleads, hnew,
        fun hm => hown (List.mem_cons_of_mem _ hm)⟩
  case distinct =>
    intro share hm other hm' heq
    rcases List.mem_cons.mp hm with rfl | hm <;> rcases List.mem_cons.mp hm' with rfl | hm'
    · rfl
    · rw [hself, hold other hm'] at heq
      exact absurd heq.symm (hother other hm')
    · rw [hself, hold share hm] at heq
      exact absurd heq (hother share hm)
    · rw [hold share hm, hold other hm'] at heq
      exact h.distinct share hm other hm' heq
  case open_iff =>
    intro other hnew
    refine (h.open_iff other hnew).trans ?_
    simp only [List.mem_cons, exists_eq_or_imp, hself, Option.some.injEq]
    have hshares : (∃ share ∈ owners,
        (now.adopt descriptor).2.descriptorOf? share = some other) ↔
        ∃ share ∈ owners, now.descriptorOf? share = some other :=
      exists_congr fun share => and_congr_right fun hm => by rw [hold share hm]
    rw [hshares, @eq_comm _ descriptor other]
    tauto
  case closed => exact h.closed

/-- Files and positions do not matter. -/
theorem withFiles (h : start.Accounted now own owners) (files : Array File)
    (openFiles : Array OpenFile) :
    start.Accounted { now with files := files, openFiles := openFiles } own owners :=
  ⟨h.descriptors_size, h.holdings_size, h.descriptors, h.holdings, h.own_nodup, h.own_new,
    h.owners_new, h.counted, h.duplicate, h.distinct, h.open_iff, h.closed⟩

/-- Owners for planes are entered. -/
theorem retainPlanes (h : start.Accounted now own owners) {planes : List Plane}
    (hm : ∀ plane ∈ planes, plane.share ∈ owners) :
    start.Accounted (now.retainPlanes planes) own (owners ++ planes.map Plane.share) := by
  unfold Platform.retainPlanes
  induction planes generalizing now owners with
  | nil => simpa using h
  | cons plane rest ih =>
      have hretained := h.retain (hm plane List.mem_cons_self)
      have hrest := ih hretained fun other hother =>
        List.mem_cons_of_mem _ (hm other (List.mem_cons_of_mem _ hother))
      rw [List.foldl_cons, List.map_cons]
      exact hrest.perm (.refl _) List.perm_middle.symm

/-- Owners of planes leave the account. -/
theorem releasePlanes {planes : List Plane}
    (h : start.Accounted now own (planes.map Plane.share ++ owners)) :
    start.Accounted (now.releasePlanes planes) own owners := by
  unfold Platform.releasePlanes
  induction planes generalizing now with
  | nil => exact h
  | cons plane rest ih =>
      have hreleased := h.release (List.mem_append_left owners List.mem_cons_self)
      rw [List.map_cons, List.cons_append, List.erase_cons_head] at hreleased
      exact ih hreleased

end Accounted

end Platform

end PixelBuffer
