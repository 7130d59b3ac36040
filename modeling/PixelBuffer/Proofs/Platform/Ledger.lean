import PixelBuffer.Proofs.Platform.Lasting

/-!
# Accounting for open descriptors

Since some start, a platform opened descriptors of two kinds: some are owned alone, and some are
duplicates under a holding, with an owner for every time that their share is listed.
`Platform.Accounted` says that these are all that is open, that the counts of the holdings are
right, and that all others were closed.

Two accounts in a row add up (`Platform.Accounted.trans`). `Proofs.Platform.Entries` has the
accounts that things come with, and what is entered when they are let go.
-/

namespace PixelBuffer

namespace Platform

/-! ## Closings -/

/-- The descriptors that came to be since `start` and are not open now are those that were
closed. -/
def ClosedSince (start now : Platform) : Prop :=
  ∃ gone : List Descriptor, now.closed = start.closed ++ gone.toArray ∧
    ∀ descriptor, descriptor ∈ gone ↔
      start.descriptors.size ≤ descriptor.number ∧
        descriptor.number < now.descriptors.size ∧ now.openFile? descriptor = none

/-- A descriptor that is open has a number. -/
theorem number_lt_of_isOpen {platform : Platform} {descriptor : Descriptor}
    (h : (platform.openFile? descriptor).isSome) :
    descriptor.number < platform.descriptors.size := by
  by_contra hge
  unfold openFile? at h
  rw [Array.getElem?_eq_none (Nat.le_of_not_lt hge)] at h
  cases h

/-- A descriptor that is closed refers to nothing. -/
theorem openFile?_close (platform : Platform) (descriptor other : Descriptor) :
    (platform.close descriptor).openFile? other =
      if other = descriptor then none else platform.openFile? other := by
  unfold openFile?
  rw [descriptors_close]
  by_cases heq : other = descriptor
  · subst heq
    rw [if_pos rfl, if_pos rfl]
    split <;> rfl
  · have hne : descriptor.number ≠ other.number := by
      intro hnumber
      cases descriptor
      cases other
      exact heq (congrArg Descriptor.mk hnumber.symm)
    rw [if_neg hne, if_neg heq]

/-- Closing is noted. -/
theorem ClosedSince.close {start now : Platform} (h : start.ClosedSince now)
    {descriptor : Descriptor} (hnew : start.descriptors.size ≤ descriptor.number)
    (hlt : descriptor.number < now.descriptors.size) :
    start.ClosedSince (now.close descriptor) := by
  obtain ⟨gone, hclosed, hgone⟩ := h
  have hsize : (now.close descriptor).descriptors.size = now.descriptors.size :=
    Array.size_setIfInBounds
  refine ⟨gone ++ [descriptor], ?_, fun other => ?_⟩
  · show now.closed.push descriptor = _
    simp [hclosed]
  · rw [List.mem_append, List.mem_singleton, hgone, hsize, openFile?_close]
    by_cases heq : other = descriptor
    · subst heq
      simp [hnew, hlt]
    · simp [heq]

/-- Closings add up. -/
theorem ClosedSince.trans {start mid now : Platform} (h : start.ClosedSince mid)
    (hnow : mid.ClosedSince now) (hstart : start.descriptors.size ≤ mid.descriptors.size)
    (hmid : mid.descriptors.size ≤ now.descriptors.size)
    (hold : ∀ number < mid.descriptors.size,
      now.descriptors[number]? = mid.descriptors[number]?) : start.ClosedSince now := by
  obtain ⟨gone, hclosed, hgone⟩ := h
  obtain ⟨more, hmore, hgone'⟩ := hnow
  refine ⟨gone ++ more, by simp [hmore, hclosed], fun descriptor => ?_⟩
  rw [List.mem_append, hgone, hgone']
  by_cases hlt : descriptor.number < mid.descriptors.size
  · have heq : now.openFile? descriptor = mid.openFile? descriptor := by
      unfold openFile?
      rw [hold _ hlt]
    rw [heq]
    constructor
    · rintro (⟨hnew, -, hnone⟩ | ⟨hnew, -, -⟩)
      · exact ⟨hnew, by omega, hnone⟩
      · omega
    · rintro ⟨hnew, -, hnone⟩
      exact .inl ⟨hnew, hlt, hnone⟩
  · constructor
    · rintro (⟨-, hnew, -⟩ | ⟨hnew, hnumber, hnone⟩)
      · exact absurd hnew hlt
      · exact ⟨by omega, hnumber, hnone⟩
    · rintro ⟨-, hnumber, hnone⟩
      exact .inr ⟨by omega, hnumber, hnone⟩

/-! ## The account -/

/-- What is open since `start`: the descriptors of `own`, and a duplicate for each share of
`owners`, which has an owner for every time that it is listed. What was there at the start is
untouched. -/
structure Accounted (start now : Platform) (own : List Descriptor) (owners : List Share) :
    Prop where
  descriptors_size : start.descriptors.size ≤ now.descriptors.size
  holdings_size : start.holdings.size ≤ now.holdings.size
  descriptors : ∀ number < start.descriptors.size,
    now.descriptors[number]? = start.descriptors[number]?
  holdings : ∀ number < start.holdings.size, now.holdings[number]? = start.holdings[number]?
  own_nodup : own.Nodup
  own_new : ∀ descriptor ∈ own, start.descriptors.size ≤ descriptor.number
  owners_new : ∀ share ∈ owners, start.holdings.size ≤ share.holding
  counted : ∀ number, start.holdings.size ≤ number → number < now.holdings.size →
    ∃ descriptor, now.holdings[number]? = some ⟨descriptor, owners.count ⟨number⟩⟩
  duplicate : ∀ share ∈ owners, ∃ descriptor, now.descriptorOf? share = some descriptor ∧
    start.descriptors.size ≤ descriptor.number ∧ descriptor ∉ own
  distinct : ∀ share ∈ owners, ∀ other ∈ owners,
    now.descriptorOf? share = now.descriptorOf? other → share = other
  open_iff : ∀ descriptor, start.descriptors.size ≤ descriptor.number →
    ((now.openFile? descriptor).isSome ↔
      descriptor ∈ own ∨ ∃ share ∈ owners, now.descriptorOf? share = some descriptor)
  closed : start.ClosedSince now

namespace Accounted

variable {start mid now : Platform} {own : List Descriptor} {owners : List Share}

/-- A descriptor that is owned alone has a number. -/
theorem own_lt (h : start.Accounted now own owners) {descriptor : Descriptor}
    (hm : descriptor ∈ own) : descriptor.number < now.descriptors.size :=
  number_lt_of_isOpen ((h.open_iff descriptor (h.own_new descriptor hm)).mpr (.inl hm))

/-- The duplicate of a share that has an owner is open. -/
theorem duplicate_isOpen (h : start.Accounted now own owners) {share : Share}
    (hm : share ∈ owners) :
    ∃ descriptor, now.descriptorOf? share = some descriptor ∧
      start.descriptors.size ≤ descriptor.number ∧ descriptor ∉ own ∧
      (now.openFile? descriptor).isSome := by
  obtain ⟨descriptor, hdescriptor, hnew, hown⟩ := h.duplicate share hm
  exact ⟨descriptor, hdescriptor, hnew, hown,
    (h.open_iff descriptor hnew).mpr (.inr ⟨share, hm, hdescriptor⟩)⟩

/-- A share that has an owner has a holding. -/
theorem share_lt (h : start.Accounted now own owners) {share : Share} (hm : share ∈ owners) :
    share.holding < now.holdings.size := by
  obtain ⟨descriptor, hdescriptor, -⟩ := h.duplicate share hm
  obtain ⟨holding, hholding, -⟩ := Option.map_eq_some_iff.mp hdescriptor
  exact (Array.getElem?_eq_some_iff.mp hholding).1

/-- A descriptor from before the start refers to what it referred to. -/
theorem openFile?_old (h : start.Accounted now own owners) {descriptor : Descriptor}
    (hold : descriptor.number < start.descriptors.size) :
    now.openFile? descriptor = start.openFile? descriptor := by
  unfold openFile?
  rw [h.descriptors _ hold]

/-- A share from before the start leads to the descriptor that it led to. -/
theorem descriptorOf?_old (h : start.Accounted now own owners) {share : Share}
    (hold : share.holding < start.holdings.size) :
    now.descriptorOf? share = start.descriptorOf? share := by
  unfold descriptorOf?
  rw [h.holdings _ hold]

/-- The order of the entries does not matter. -/
theorem perm (h : start.Accounted now own owners) {own' : List Descriptor}
    {owners' : List Share} (hown : own.Perm own') (howners : owners.Perm owners') :
    start.Accounted now own' owners' where
  descriptors_size := h.descriptors_size
  holdings_size := h.holdings_size
  descriptors := h.descriptors
  holdings := h.holdings
  own_nodup := hown.nodup_iff.mp h.own_nodup
  own_new descriptor hm := h.own_new descriptor (hown.mem_iff.mpr hm)
  owners_new share hm := h.owners_new share (howners.mem_iff.mpr hm)
  counted := by simpa only [howners.count_eq] using h.counted
  duplicate := by simpa only [hown.mem_iff, howners.mem_iff] using h.duplicate
  distinct share hm other hother :=
    h.distinct share (howners.mem_iff.mpr hm) other (howners.mem_iff.mpr hother)
  open_iff := by simpa only [hown.mem_iff, howners.mem_iff] using h.open_iff
  closed := h.closed

/-- Through a share that kept an owner, the same length is measured. -/
theorem measureShare_eq {before : Platform} {own' : List Descriptor} {owners' : List Share}
    (h : start.Accounted before own owners) (hnow : start.Accounted now own' owners')
    (hprecedes : before.Precedes now) {share : Share} (hm : share ∈ owners)
    (hm' : share ∈ owners') {bytes : UInt64}
    (hbytes : (before.measureShare share).1 = .ok bytes) :
    (now.measureShare share).1 = .ok bytes := by
  obtain ⟨descriptor, hdescriptor, -⟩ := h.duplicate share hm
  obtain ⟨same, hsame, -, -, hopen⟩ := hnow.duplicate_isOpen hm'
  cases (hprecedes.descriptorOf?_eq hdescriptor).symm.trans hsame
  exact hprecedes.measureShare_eq hdescriptor hbytes hopen

section

variable {own' : List Descriptor} {owners' : List Share}

/-- A duplicate of the first of two accounts has a lower number than all that the second one
lists. -/
theorem duplicate_lt (h : start.Accounted mid own owners) (hnow : mid.Accounted now own' owners')
    {share : Share} (hm : share ∈ owners) :
    ∃ descriptor, now.descriptorOf? share = some descriptor ∧
      start.descriptors.size ≤ descriptor.number ∧
      descriptor.number < mid.descriptors.size ∧ descriptor ∉ own := by
  obtain ⟨descriptor, hdescriptor, hnew, hown, hopen⟩ := h.duplicate_isOpen hm
  exact ⟨descriptor, (hnow.descriptorOf?_old (h.share_lt hm)).trans hdescriptor, hnew,
    number_lt_of_isOpen hopen, hown⟩

/-- The counts of two accounts add up. -/
theorem counted_append (h : start.Accounted mid own owners)
    (hnow : mid.Accounted now own' owners') (number : Nat) (hnew : start.holdings.size ≤ number)
    (hlt : number < now.holdings.size) :
    ∃ descriptor, now.holdings[number]? =
      some ⟨descriptor, (owners ++ owners').count ⟨number⟩⟩ := by
  rw [List.count_append]
  by_cases hmid : number < mid.holdings.size
  · have hnone : owners'.count ⟨number⟩ = 0 := by
      refine List.count_eq_zero_of_not_mem fun hm => ?_
      exact absurd (hnow.owners_new _ hm) (Nat.not_le_of_lt hmid)
    obtain ⟨descriptor, hholding⟩ := h.counted number hnew hmid
    exact ⟨descriptor, by rw [hnow.holdings number hmid, hholding, hnone, Nat.add_zero]⟩
  · have hnone : owners.count ⟨number⟩ = 0 :=
      List.count_eq_zero_of_not_mem fun hm => hmid (h.share_lt hm)
    obtain ⟨descriptor, hholding⟩ := hnow.counted number (by omega) hlt
    exact ⟨descriptor, by rw [hholding, hnone, Nat.zero_add]⟩

/-- Different shares of two accounts have different duplicates. -/
theorem distinct_append (h : start.Accounted mid own owners)
    (hnow : mid.Accounted now own' owners') :
    ∀ share ∈ owners ++ owners', ∀ other ∈ owners ++ owners',
      now.descriptorOf? share = now.descriptorOf? other → share = other := by
  have hapart : ∀ share ∈ owners, ∀ other ∈ owners',
      now.descriptorOf? share ≠ now.descriptorOf? other := by
    intro share hm other hother heq
    obtain ⟨descriptor, hdescriptor, -, hlt, -⟩ := h.duplicate_lt hnow hm
    obtain ⟨same, hsame, hge, -⟩ := hnow.duplicate other hother
    cases (hdescriptor.symm.trans heq).trans hsame
    omega
  intro share hm other hother heq
  rcases List.mem_append.mp hm with hm | hm <;> rcases List.mem_append.mp hother with ho | ho
  · rw [hnow.descriptorOf?_old (h.share_lt hm), hnow.descriptorOf?_old (h.share_lt ho)] at heq
    exact h.distinct share hm other ho heq
  · exact absurd heq (hapart share hm other ho)
  · exact absurd heq.symm (hapart other ho share hm)
  · exact hnow.distinct share hm other ho heq

/-- What is open after two accounts is what one of them lists. -/
theorem open_iff_append (h : start.Accounted mid own owners)
    (hnow : mid.Accounted now own' owners') (descriptor : Descriptor)
    (hnew : start.descriptors.size ≤ descriptor.number) :
    (now.openFile? descriptor).isSome ↔ descriptor ∈ own ++ own' ∨
      ∃ share ∈ owners ++ owners', now.descriptorOf? share = some descriptor := by
  simp only [List.mem_append, or_and_right, exists_or]
  by_cases hlt : descriptor.number < mid.descriptors.size
  · rw [hnow.openFile?_old hlt, h.open_iff descriptor hnew]
    constructor
    · rintro (hm | ⟨share, hm, hdescriptor⟩)
      · exact .inl (.inl hm)
      · rw [← hnow.descriptorOf?_old (h.share_lt hm)] at hdescriptor
        exact .inr (.inl ⟨share, hm, hdescriptor⟩)
    · rintro ((hm | hm) | ⟨share, hm, hdescriptor⟩ | ⟨share, hm, hdescriptor⟩)
      · exact .inl hm
      · exact absurd (hnow.own_new _ hm) (Nat.not_le_of_lt hlt)
      · rw [hnow.descriptorOf?_old (h.share_lt hm)] at hdescriptor
        exact .inr ⟨share, hm, hdescriptor⟩
      · obtain ⟨same, hsame, hge, -⟩ := hnow.duplicate share hm
        cases hdescriptor.symm.trans hsame
        exact absurd hge (Nat.not_le_of_lt hlt)
  · rw [hnow.open_iff descriptor (Nat.le_of_not_lt hlt)]
    constructor
    · rintro (hm | hshare)
      · exact .inl (.inr hm)
      · exact .inr (.inr hshare)
    · rintro ((hm | hm) | ⟨share, hm, hdescriptor⟩ | hshare)
      · exact absurd (h.own_lt hm) hlt
      · exact .inl hm
      · obtain ⟨same, hsame, -, hnumber, -⟩ := h.duplicate_lt hnow hm
        cases hdescriptor.symm.trans hsame
        exact absurd hnumber hlt
      · exact .inr hshare

/-- Two accounts in a row add up. -/
theorem trans (h : start.Accounted mid own owners) (hnow : mid.Accounted now own' owners') :
    start.Accounted now (own ++ own') (owners ++ owners') := by
  have hdescriptors := h.descriptors_size
  have hholdings := h.holdings_size
  constructor
  case descriptors_size => exact Nat.le_trans hdescriptors hnow.descriptors_size
  case holdings_size => exact Nat.le_trans hholdings hnow.holdings_size
  case descriptors =>
    intro number hnumber
    rw [hnow.descriptors number (by omega), h.descriptors number hnumber]
  case holdings =>
    intro number hnumber
    rw [hnow.holdings number (by omega), h.holdings number hnumber]
  case own_nodup =>
    refine h.own_nodup.append hnow.own_nodup fun descriptor hm hm' => ?_
    have hlt := h.own_lt hm
    have hge := hnow.own_new descriptor hm'
    omega
  case own_new =>
    intro descriptor hm
    rcases List.mem_append.mp hm with hm | hm
    · exact h.own_new descriptor hm
    · exact Nat.le_trans hdescriptors (hnow.own_new descriptor hm)
  case owners_new =>
    intro share hm
    rcases List.mem_append.mp hm with hm | hm
    · exact h.owners_new share hm
    · exact Nat.le_trans hholdings (hnow.owners_new share hm)
  case counted => exact h.counted_append hnow
  case duplicate =>
    intro share hm
    rcases List.mem_append.mp hm with hm | hm
    · obtain ⟨descriptor, hdescriptor, hnew, hlt, hown⟩ := h.duplicate_lt hnow hm
      refine ⟨descriptor, hdescriptor, hnew, ?_⟩
      rw [List.mem_append, not_or]
      exact ⟨hown, fun hm' => absurd (hnow.own_new _ hm') (Nat.not_le_of_lt hlt)⟩
    · obtain ⟨descriptor, hdescriptor, hnew, hown⟩ := hnow.duplicate share hm
      refine ⟨descriptor, hdescriptor, Nat.le_trans hdescriptors hnew, ?_⟩
      rw [List.mem_append, not_or]
      exact ⟨fun hm' => absurd hnew (Nat.not_le_of_lt (h.own_lt hm')), hown⟩
  case distinct => exact h.distinct_append hnow
  case open_iff => exact h.open_iff_append hnow
  case closed =>
    exact h.closed.trans hnow.closed hdescriptors hnow.descriptors_size hnow.descriptors

end

end Accounted

end Platform

end PixelBuffer
