import PixelBuffer.Proofs.Platform.Lineage
import PixelBuffer.Proofs.Platform.Entries

/-!
# What a step does to a desk

`Desk.Performs` lists what a step can do, each time with its answer and the desk after it, and
`Desk.perform_performs` shows that it does nothing else. A step fills one new entry at most, and
leaves what is in the other entries or empties them (`Desk.Performs.becomes`).
-/

namespace PixelBuffer

/-- The descriptor that is owned alone or that a share leads to. -/
def Platform.behind? (platform : Platform) : Descriptor ⊕ Share → Option Descriptor
  | .inl descriptor => some descriptor
  | .inr share => platform.descriptorOf? share

namespace Platform

/-- Moving a position is refused, or moves the position of one open file. -/
theorem seek_cases (platform : Platform) (descriptor : Descriptor) (position : Int) :
    (∃ fault, platform.seek descriptor position = (.error fault, platform)) ∨
      ∃ number, platform.seek descriptor position =
        (.ok position.toNat, platform.setPosition number position.toNat) := by
  unfold seek
  split
  · split
    · exact .inl ⟨_, rfl⟩
    · exact .inr ⟨_, rfl⟩
  · exact .inl ⟨_, rfl⟩
  · exact .inl ⟨_, rfl⟩

/-- A length that a file can be given is the length of a file. -/
theorem toNat_lt_of_bounds {length : Int} (bounds : 0 ≤ length ∧ length < 0x8000000000000000) :
    length.toNat < 0x8000000000000000 := by
  omega

/-- Changing a length is refused, or changes the length of the file of the descriptor. -/
theorem truncate_cases (platform : Platform) (descriptor : Descriptor) (length : Int) :
    (∃ fault, platform.truncate descriptor length = (.error fault, platform)) ∨
      ∃ number, platform.fileNumber? descriptor = some number ∧
        ∃ bounds : 0 ≤ length ∧ length < 0x8000000000000000, platform.truncate descriptor length =
          (.ok (), { platform with
            files := platform.files.setIfInBounds number
              (.memory ⟨length.toNat, toNat_lt_of_bounds bounds⟩) }) := by
  unfold truncate
  split
  · rename_i number _ hrefers _
    split
    · rename_i hbounds
      exact .inr ⟨number, hrefers, hbounds, rfl⟩
    · exact .inl ⟨_, rfl⟩
  · exact .inl ⟨_, rfl⟩
  · exact .inl ⟨_, rfl⟩

end Platform

namespace Desk

/-- What is in an entry. -/
def content? (desk : Desk) : Entry → Option (Descriptor ⊕ Share)
  | .raw slot => (desk.raw? slot).map .inl
  | .shared slot => (desk.shared? slot).map .inr

/-- The entry was filled, and perhaps emptied again. -/
def Known (desk : Desk) : Entry → Prop
  | .raw slot => slot < desk.raw.size
  | .shared slot => slot < desk.shared.size

/-- The entry is full. -/
def Live (desk : Desk) (entry : Entry) : Prop :=
  (desk.content? entry).isSome

/-- The descriptor of an entry. -/
def descriptor? (desk : Desk) (entry : Entry) : Option Descriptor :=
  (desk.content? entry).bind desk.platform.behind?

/-- The descriptors that are owned alone. -/
def owned (desk : Desk) : List Descriptor :=
  desk.raw.toList.filterMap id

/-- The shares, each as often as there are slots with it. -/
def shares (desk : Desk) : List Share :=
  desk.shared.toList.filterMap id

/-- The desk with an empty raw slot. -/
def emptyRaw (desk : Desk) (slot : Nat) : Desk :=
  { desk with raw := desk.raw.setIfInBounds slot none }

/-- The desk with an empty shared slot. -/
def emptyShared (desk : Desk) (slot : Nat) : Desk :=
  { desk with shared := desk.shared.setIfInBounds slot none }

/-- The desk with another platform. -/
def onto (desk : Desk) (platform : Platform) : Desk :=
  { desk with platform := platform }

variable {desk : Desk}

/-! ## Slots -/

/-- What is in the entries after a descriptor was put into a new slot. -/
theorem content?_pushRaw (platform : Platform) (descriptor : Descriptor) (entry : Entry) :
    (desk.pushRaw platform descriptor).2.content? entry =
      if entry = .raw desk.raw.size then some (.inl descriptor) else desk.content? entry := by
  cases entry with
  | raw slot =>
      show ((desk.raw.push (some descriptor))[slot]?.join).map _ = _
      rw [Array.getElem?_push]
      by_cases heq : slot = desk.raw.size
      · simp [heq]
      · simp [heq, content?, raw?]
  | shared slot => simp [content?, pushRaw, shared?]

/-- What is in the entries after a share was put into a new slot. -/
theorem content?_pushShared (platform : Platform) (share : Share) (entry : Entry) :
    (desk.pushShared platform share).2.content? entry =
      if entry = .shared desk.shared.size then some (.inr share) else desk.content? entry := by
  cases entry with
  | raw slot => simp [content?, pushShared, raw?]
  | shared slot =>
      show ((desk.shared.push (some share))[slot]?.join).map _ = _
      rw [Array.getElem?_push]
      by_cases heq : slot = desk.shared.size
      · simp [heq]
      · simp [heq, content?, shared?]

/-- What is in the entries after a raw slot was emptied. -/
theorem content?_emptyRaw (slot : Nat) (entry : Entry) :
    (desk.emptyRaw slot).content? entry =
      if entry = .raw slot then none else desk.content? entry := by
  cases entry with
  | raw other =>
      show ((desk.raw.setIfInBounds slot none)[other]?.join).map _ = _
      rw [Array.getElem?_setIfInBounds]
      by_cases heq : slot = other
      · subst heq
        by_cases hlt : slot < desk.raw.size <;> simp [hlt]
      · simp [heq, Ne.symm heq, content?, raw?]
  | shared other => simp [content?, emptyRaw, shared?]

/-- What is in the entries after a shared slot was emptied. -/
theorem content?_emptyShared (slot : Nat) (entry : Entry) :
    (desk.emptyShared slot).content? entry =
      if entry = .shared slot then none else desk.content? entry := by
  cases entry with
  | raw other => simp [content?, emptyShared, raw?]
  | shared other =>
      show ((desk.shared.setIfInBounds slot none)[other]?.join).map _ = _
      rw [Array.getElem?_setIfInBounds]
      by_cases heq : slot = other
      · subst heq
        by_cases hlt : slot < desk.shared.size <;> simp [hlt]
      · simp [heq, Ne.symm heq, content?, shared?]

/-- A new raw slot is known. -/
theorem known_pushRaw (platform : Platform) (descriptor : Descriptor) (entry : Entry) :
    (desk.pushRaw platform descriptor).2.Known entry ↔
      desk.Known entry ∨ entry = .raw desk.raw.size := by
  cases entry with
  | raw slot =>
      simp only [Known, pushRaw, Array.size_push, Entry.raw.injEq]
      omega
  | shared slot => simp [Known, pushRaw]

/-- A new shared slot is known. -/
theorem known_pushShared (platform : Platform) (share : Share) (entry : Entry) :
    (desk.pushShared platform share).2.Known entry ↔
      desk.Known entry ∨ entry = .shared desk.shared.size := by
  cases entry with
  | raw slot => simp [Known, pushShared]
  | shared slot =>
      simp only [Known, pushShared, Array.size_push, Entry.shared.injEq]
      omega

/-- A slot that is emptied stays known. -/
theorem known_emptyRaw (slot : Nat) (entry : Entry) :
    (desk.emptyRaw slot).Known entry ↔ desk.Known entry := by
  cases entry <;> simp [Known, emptyRaw]

/-- A slot that is emptied stays known. -/
theorem known_emptyShared (slot : Nat) (entry : Entry) :
    (desk.emptyShared slot).Known entry ↔ desk.Known entry := by
  cases entry <;> simp [Known, emptyShared]

/-- A full entry is known. -/
theorem Live.known {entry : Entry} (h : desk.Live entry) : desk.Known entry := by
  cases entry with
  | raw slot =>
      by_contra hge
      simp only [Known, Nat.not_lt] at hge
      simp [Live, content?, raw?, hge] at h
  | shared slot =>
      by_contra hge
      simp only [Known, Nat.not_lt] at hge
      simp [Live, content?, shared?, hge] at h

/-! ## Steps -/

end Desk

/-- An answer that tells of no change. -/
def DeskAnswer.IsStill : DeskAnswer → Prop
  | .slot _ | .length _ | .done | .emptied true => False
  | _ => True

namespace Desk

variable {desk after : Desk} {step : DeskStep} {answer : DeskAnswer}

/-- The step that measures the file of an entry. -/
def measuring : Entry → DeskStep
  | .raw slot => .measureRaw slot
  | .shared slot => .measureShare slot

/-- What a step can do: its answer, and the desk after it. -/
inductive Performs (desk : Desk) : DeskStep → DeskAnswer → Desk → Prop
  /-- Nothing changes. -/
  | still {step : DeskStep} {answer : DeskAnswer} (still : answer.IsStill) :
      Performs desk step answer desk
  /-- A file is created and opened. -/
  | created {source : Source} {file : File} {position : Nat}
      (creates : desk.platform.openSource [] source =
        ([⟨desk.platform.descriptors.size⟩], (desk.platform.create file position).2)) :
      Performs desk (.create source) (.slot desk.raw.size)
        (desk.pushRaw (desk.platform.create file position).2 ⟨desk.platform.descriptors.size⟩).2
  /-- A duplicate is shared. -/
  | duplicated {raw number : Nat} {descriptor : Descriptor}
      (present : desk.raw? raw = some descriptor)
      (isOpen : desk.platform.openFile? descriptor = some number) :
      Performs desk (.shareDuplicate raw) (.slot desk.shared.size)
        (desk.pushShared (desk.platform.shareDuplicate descriptor).2
          ⟨desk.platform.holdings.size⟩).2
  /-- A descriptor that was owned alone is shared. -/
  | adopted {raw : Nat} {descriptor : Descriptor} (present : desk.raw? raw = some descriptor) :
      Performs desk (.adopt raw) (.slot desk.shared.size)
        ((desk.emptyRaw raw).pushShared (desk.platform.adopt descriptor).2
          ⟨desk.platform.holdings.size⟩).2
  /-- A share is cloned. -/
  | retained {shared : Nat} {share : Share} (present : desk.shared? shared = some share) :
      Performs desk (.retain shared) (.slot desk.shared.size)
        (desk.pushShared (desk.platform.retain share) share).2
  /-- A duplicate of a shared descriptor is owned alone. -/
  | unshared {shared number : Nat} {share : Share} {descriptor : Descriptor}
      (present : desk.shared? shared = some share)
      (leads : desk.platform.descriptorOf? share = some descriptor)
      (isOpen : desk.platform.openFile? descriptor = some number) :
      Performs desk (.duplicateShare shared) (.slot desk.raw.size)
        (desk.pushRaw (desk.platform.duplicate descriptor).2
          ⟨desk.platform.descriptors.size⟩).2
  /-- A length is measured, and the open file rewound. -/
  | measured {step : DeskStep} {entry : Entry} {descriptor : Descriptor} {number : Nat}
      {length : FileLength} (measures : step = measuring entry)
      (leads : desk.descriptor? entry = some descriptor)
      (isOpen : desk.platform.openFile? descriptor = some number)
      (memory : desk.platform.file? descriptor = some (.memory length)) :
      Performs desk step (.length (UInt64.ofNat length.val))
        (desk.onto (desk.platform.setPosition number 0))
  /-- A position is moved. -/
  | sought {raw number : Nat} {position : Int} :
      Performs desk (.seek raw position) (.position (some position.toNat))
        (desk.onto (desk.platform.setPosition number position.toNat))
  /-- A length is changed. -/
  | truncated {raw number : Nat} {length : Int} {descriptor : Descriptor}
      (present : desk.raw? raw = some descriptor)
      (refers : desk.platform.fileNumber? descriptor = some number)
      (bounds : 0 ≤ length ∧ length < 0x8000000000000000) :
      Performs desk (.truncate raw length) .done
        (desk.onto { desk.platform with
          files := desk.platform.files.setIfInBounds number
            (.memory ⟨length.toNat, Platform.toNat_lt_of_bounds bounds⟩) })
  /-- A descriptor that was owned alone is closed. -/
  | closed {raw : Nat} {descriptor : Descriptor} (present : desk.raw? raw = some descriptor) :
      Performs desk (.close raw) (.emptied true)
        ((desk.emptyRaw raw).onto (desk.platform.close descriptor))
  /-- A share is let go. -/
  | released {shared : Nat} {share : Share} (present : desk.shared? shared = some share) :
      Performs desk (.release shared) (.emptied true)
        ((desk.emptyShared shared).onto (desk.platform.release share))

/-- What is measured through a descriptor. -/
theorem measured_performs (entry : Entry) {descriptor : Descriptor}
    (h : desk.descriptor? entry = some descriptor) :
    desk.Performs (measuring entry) (desk.measured (desk.platform.measure descriptor)).1
      (desk.measured (desk.platform.measure descriptor)).2 := by
  unfold Platform.measure
  split
  · rename_i number length hopen hfile
    exact .measured rfl h hopen hfile
  · exact .still trivial
  · exact .still trivial

/-- A step does what is listed. -/
theorem perform_performs (desk : Desk) (step : DeskStep) :
    desk.Performs step (desk.perform step).1 (desk.perform step).2 := by
  cases step with
  | create source =>
      cases source with
      | memory length position => exact .created rfl
      | pipe => exact .created rfl
      | duplicate index => exact .still trivial
  | shareDuplicate raw =>
      rw [perform]
      cases hpresent : desk.raw? raw with
      | none => exact .still trivial
      | some descriptor =>
          cases hopen : desk.platform.openFile? descriptor with
          | none =>
              simp only [Platform.shareDuplicate, Platform.duplicate, hopen]
              exact .still trivial
          | some number =>
              have hduplicated := Performs.duplicated hpresent hopen
              simp only [Platform.shareDuplicate_eq hopen] at hduplicated ⊢
              exact hduplicated
  | adopt raw =>
      rw [perform]
      cases hpresent : desk.raw? raw with
      | none => exact .still trivial
      | some descriptor => exact .adopted hpresent
  | retain shared =>
      rw [perform]
      cases hpresent : desk.shared? shared with
      | none => exact .still trivial
      | some share => exact .retained hpresent
  | duplicateShare shared =>
      rw [perform]
      cases hpresent : desk.shared? shared with
      | none => exact .still trivial
      | some share =>
          dsimp only
          unfold Platform.duplicateShare
          cases hleads : desk.platform.descriptorOf? share with
          | none => exact .still trivial
          | some descriptor =>
              cases hopen : desk.platform.openFile? descriptor with
              | none =>
                  simp only [Platform.duplicate, hopen]
                  exact .still trivial
              | some number =>
                  have hunshared := Performs.unshared hpresent hleads hopen
                  simp only [Platform.duplicate, hopen] at hunshared ⊢
                  exact hunshared
  | compare shared other =>
      rw [perform]
      split <;> exact .still trivial
  | measureShare shared =>
      rw [perform]
      cases hpresent : desk.shared? shared with
      | none => exact .still trivial
      | some share =>
          dsimp only
          unfold Platform.measureShare
          cases hleads : desk.platform.descriptorOf? share with
          | none => exact .still trivial
          | some descriptor =>
              refine measured_performs (.shared shared) ?_
              simp [descriptor?, content?, hpresent, Platform.behind?, hleads]
  | measureRaw raw =>
      rw [perform]
      cases hpresent : desk.raw? raw with
      | none => exact .still trivial
      | some descriptor =>
          refine measured_performs (.raw raw) ?_
          simp [descriptor?, content?, hpresent, Platform.behind?]
  | position shared =>
      rw [perform]
      split <;> exact .still trivial
  | seek raw position =>
      rw [perform]
      cases hpresent : desk.raw? raw with
      | none => exact .still trivial
      | some descriptor =>
          dsimp only
          rcases desk.platform.seek_cases descriptor position with ⟨fault, heq⟩ | ⟨number, heq⟩
          · rw [heq]
            exact .still trivial
          · rw [heq]
            exact .sought
  | truncate raw length =>
      rw [perform]
      cases hpresent : desk.raw? raw with
      | none => exact .still trivial
      | some descriptor =>
          dsimp only
          rcases desk.platform.truncate_cases descriptor length with
            ⟨fault, heq⟩ | ⟨number, hrefers, hbounds, heq⟩
          · rw [heq]
            exact .still trivial
          · rw [heq]
            exact .truncated hpresent hrefers hbounds
  | close raw =>
      rw [perform]
      cases hpresent : desk.raw? raw with
      | none => exact .still trivial
      | some descriptor => exact .closed hpresent
  | release shared =>
      rw [perform]
      cases hpresent : desk.shared? shared with
      | none => exact .still trivial
      | some share => exact .released hpresent

/-! ## What a step keeps -/

end Desk

namespace Platform

/-- Descriptors and shares lead to where they led, but for descriptors that were closed, and nothing
is removed. -/
structure Keeps (before now : Platform) : Prop where
  openFile?_eq : ∀ {descriptor : Descriptor} {number : Nat},
    before.openFile? descriptor = some number → (now.openFile? descriptor).isSome →
      now.openFile? descriptor = some number
  descriptorOf?_eq : ∀ {share : Share} {descriptor : Descriptor},
    before.descriptorOf? share = some descriptor → now.descriptorOf? share = some descriptor
  openFiles_size : before.openFiles.size ≤ now.openFiles.size
  holdings_size : before.holdings.size ≤ now.holdings.size

/-- Entries that are all still there in some form are no fewer. -/
theorem size_le_of_getElem? {α β : Type} {entries : Array α} {others : Array β}
    (h : ∀ (index : Nat) entry, entries[index]? = some entry → (others[index]?).isSome) :
    entries.size ≤ others.size := by
  by_contra hlt
  have hindex : others.size < entries.size := Nat.not_le.mp hlt
  simpa using h others.size _ (Array.getElem?_eq_getElem hindex)

/-- What lasts on a platform is kept. -/
theorem Precedes.keeps {before now : Platform} (h : before.Precedes now) : before.Keeps now where
  openFile?_eq := h.openFile?_eq
  descriptorOf?_eq := h.descriptorOf?_eq
  openFiles_size := size_le_of_getElem? fun number opened hopened => by
    obtain ⟨_, heq, -⟩ := Option.map_eq_some_iff.mp (h.openFiles number opened hopened)
    rw [heq]
    rfl
  holdings_size := size_le_of_getElem? fun number holding hholding => by
    obtain ⟨_, heq, -⟩ := Option.map_eq_some_iff.mp (h.holdings number holding hholding)
    rw [heq]
    rfl

/-- Moving a position changes nothing else. -/
theorem setPosition_precedes (platform : Platform) (number position : Nat) :
    platform.Precedes (platform.setPosition number position) where
  files _ _ h := h
  openFiles index opened h := by
    show (platform.openFiles.modify _ _)[index]?.map _ = _
    rw [Array.getElem?_modify, h]
    by_cases heq : number = index <;> simp [heq]
  descriptors _ _ h := .inl h
  holdings _ holding h := by rw [show (platform.setPosition number position).holdings =
    platform.holdings from rfl, h]; rfl

/-- A new holding changes no other one. -/
theorem adopt_precedes (platform : Platform) (descriptor : Descriptor) :
    platform.Precedes (platform.adopt descriptor).2 where
  files _ _ h := h
  openFiles _ _ h := by
    show platform.openFiles[_]?.map _ = _
    rw [h]
    rfl
  descriptors _ _ h := .inl h
  holdings _ _ h := by
    show (platform.holdings.push _)[_]?.map _ = _
    rw [getElem?_push_of_some h]
    rfl

/-- A duplicate of an open descriptor adds one descriptor for its open file. -/
theorem duplicate_adds {platform : Platform} {descriptor : Descriptor} {number : Nat}
    (h : platform.openFile? descriptor = some number) :
    platform.Adds (platform.duplicate descriptor).2 number := by
  simp only [duplicate, h]
  exact ⟨rfl, rfl, rfl, fun _ _ h => h, fun _ _ h => h⟩

/-- One descriptor more refers to the open file that it was added for. -/
theorem Adds.openFile?_new {platform now : Platform} {number : Nat}
    (h : platform.Adds now number) : now.openFile? ⟨platform.descriptors.size⟩ = some number := by
  simp [openFile?, h.descriptors]

/-- One descriptor more is one that was opened. -/
theorem Adds.opened {platform now : Platform} {number : Nat} (h : platform.Adds now number) :
    platform.Opened now [⟨platform.descriptors.size⟩] :=
  (Opened.refl platform).push h

/-- A shared duplicate of an open descriptor is one by which a platform grew. -/
theorem shareDuplicate_grown {platform : Platform} {descriptor : Descriptor} {number : Nat}
    (h : platform.openFile? descriptor = some number) :
    platform.Grown (platform.shareDuplicate descriptor).2 [number] []
      [⟨platform.holdings.size⟩] :=
  ((Grown.refl platform).share_duplicate h).2

end Platform

/-- The step may change the length of a file. -/
def DeskStep.Truncates : DeskStep → Prop
  | .truncate _ _ => True
  | _ => False

namespace Desk

variable {desk later after : Desk} {step : DeskStep} {answer : DeskAnswer}

/-- All that lasts on a platform outlasts a step that changes no length. -/
theorem Performs.precedes (h : desk.Performs step answer after) (hstep : ¬ step.Truncates) :
    desk.platform.Precedes after.platform := by
  cases h with
  | still => exact .refl _
  | created => exact (Platform.create_adds _ _ _).opened.precedes
  | duplicated _ isOpen => exact (Platform.shareDuplicate_grown isOpen).precedes
  | adopted => exact Platform.adopt_precedes _ _
  | retained => exact Platform.retain_precedes _ _
  | unshared _ _ isOpen => exact (Platform.duplicate_adds isOpen).opened.precedes
  | measured => exact Platform.setPosition_precedes _ _ _
  | sought => exact Platform.setPosition_precedes _ _ _
  | truncated => exact absurd trivial hstep
  | closed => exact Platform.close_precedes _ _
  | released => exact Platform.release_precedes _ _

/-- A step keeps what descriptors and shares lead to. -/
theorem Performs.keeps (h : desk.Performs step answer after) :
    desk.platform.Keeps after.platform := by
  by_cases hstep : step.Truncates
  · cases step with
    | truncate raw length =>
        cases h with
        | still => exact (Platform.Precedes.refl _).keeps
        | measured measures => exact (Platform.setPosition_precedes _ _ _).keeps
        | truncated => exact ⟨fun h _ => h, fun h => h, Nat.le_refl _, Nat.le_refl _⟩
    | _ => exact hstep.elim
  · exact (h.precedes hstep).keeps

/-- The slots after one step, which filled an entry that was not known before, if it filled any.
Every other entry keeps what is in it or is emptied. -/
structure Becomes (desk later : Desk) (filled? : Option Entry) : Prop where
  content : ∀ {entry content}, filled? ≠ some entry → later.content? entry = some content →
    desk.content? entry = some content
  known : ∀ entry, later.Known entry ↔ desk.Known entry ∨ filled? = some entry
  fresh : ∀ {entry}, filled? = some entry → ¬ desk.Known entry

/-- No slot changed. -/
theorem becomes_onto (desk : Desk) (platform : Platform) :
    desk.Becomes (desk.onto platform) none where
  content _ hcontent := hcontent
  known entry := by
    simp only [reduceCtorEq, or_false]
    exact Iff.rfl
  fresh h := by cases h

/-- A raw slot was emptied. -/
theorem becomes_emptyRaw (desk : Desk) (slot : Nat) : desk.Becomes (desk.emptyRaw slot) none where
  content _ hcontent := by
    rw [content?_emptyRaw] at hcontent
    split at hcontent
    · cases hcontent
    · exact hcontent
  known entry := by simp [known_emptyRaw]
  fresh h := by cases h

/-- A shared slot was emptied. -/
theorem becomes_emptyShared (desk : Desk) (slot : Nat) :
    desk.Becomes (desk.emptyShared slot) none where
  content _ hcontent := by
    rw [content?_emptyShared] at hcontent
    split at hcontent
    · cases hcontent
    · exact hcontent
  known entry := by simp [known_emptyShared]
  fresh h := by cases h

/-- A raw slot was filled. -/
theorem becomes_pushRaw (desk : Desk) (platform : Platform) (descriptor : Descriptor) :
    desk.Becomes (desk.pushRaw platform descriptor).2 (some (.raw desk.raw.size)) where
  content hne hcontent := by
    rw [content?_pushRaw, if_neg fun heq => hne (congrArg some heq.symm)] at hcontent
    exact hcontent
  known entry := by simp [known_pushRaw, eq_comm]
  fresh h := by
    cases h
    exact Nat.lt_irrefl _

/-- A shared slot was filled. -/
theorem becomes_pushShared (desk : Desk) (platform : Platform) (share : Share) :
    desk.Becomes (desk.pushShared platform share).2 (some (.shared desk.shared.size)) where
  content hne hcontent := by
    rw [content?_pushShared, if_neg fun heq => hne (congrArg some heq.symm)] at hcontent
    exact hcontent
  known entry := by simp [known_pushShared, eq_comm]
  fresh h := by
    cases h
    exact Nat.lt_irrefl _

/-- What is kept twice is kept, when nothing is filled at first. -/
theorem Becomes.trans {filled? : Option Entry} (h : desk.Becomes later none)
    (hafter : later.Becomes after filled?) : desk.Becomes after filled? where
  content hne hcontent := h.content (by simp) (hafter.content hne hcontent)
  known entry := by simp [hafter.known, h.known]
  fresh hfilled hknown := hafter.fresh hfilled ((h.known _).mpr (.inl hknown))

/-- An answer that tells of no change fills nothing. -/
theorem filled?_of_still (h : answer.IsStill) : step.filled? answer = none := by
  cases answer with
  | slot | length | done => exact h.elim
  | comparison | position | emptied | fault | noSlot => cases step <;> rfl

/-- A step fills one new entry at most, and keeps or empties the others. -/
theorem Performs.becomes (h : desk.Performs step answer after) :
    desk.Becomes after (step.filled? answer) := by
  cases h with
  | still still =>
      rw [filled?_of_still still]
      exact desk.becomes_onto desk.platform
  | created => exact desk.becomes_pushRaw _ _
  | duplicated => exact desk.becomes_pushShared _ _
  | adopted => exact (desk.becomes_emptyRaw _).trans (becomes_pushShared _ _ _)
  | retained => exact desk.becomes_pushShared _ _
  | unshared => exact desk.becomes_pushRaw _ _
  | @measured _ entry _ _ _ measures =>
      subst measures
      cases entry <;> exact desk.becomes_onto _
  | sought => exact desk.becomes_onto _
  | truncated => exact desk.becomes_onto _
  | closed => exact (desk.becomes_emptyRaw _).trans (becomes_onto _ _)
  | released => exact (desk.becomes_emptyShared _).trans (becomes_onto _ _)

end Desk

end PixelBuffer
