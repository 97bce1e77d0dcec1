import ForeignCall.Loading
import ForeignCall.Proofs.Arenas.Keeping
import ForeignCall.Proofs.Payload.Blocks

/-! What the calling side never does to its memory, whatever it allocates, releases, calls or loads:
a block keeps its bytes until it is released, and its address is not given out again. -/

namespace ForeignCall

/-- An allocator that takes its blocks from an arena takes them from one that there is. -/
def Heap.Admits (heap : Heap) (allocator : Allocator) : Prop :=
  ∀ index, allocator.source = .arena index → index < heap.arenas.length

namespace Heap

/-- A later state of a heap. Blocks may have come and gone, but none has other bytes. -/
structure Onward (before after : Heap) : Prop where
  sound : before.Sound → after.Sound
  blocks : ∀ index address, address < before.nextAddress →
    after.blockIn index address = before.blockIn index address ∨
      after.blockIn index address = none
  nextAddress : before.nextAddress ≤ after.nextAddress
  arenas : before.arenas.length ≤ after.arenas.length

variable {before between after heap : Heap} {index : Nat}

theorem Admits.mono {allocator : Allocator} (admits : before.Admits allocator)
    (grown : before.arenas.length ≤ after.arenas.length) : after.Admits allocator :=
  fun index source => Nat.lt_of_lt_of_le (admits index source) grown

namespace Onward

theorem refl (heap : Heap) : heap.Onward heap :=
  ⟨id, fun _ _ _ => .inl rfl, Nat.le_refl _, Nat.le_refl _⟩

theorem trans (first : before.Onward between) (second : between.Onward after) :
    before.Onward after := by
  refine ⟨second.sound ∘ first.sound, ?_, Nat.le_trans first.nextAddress second.nextAddress,
    Nat.le_trans first.arenas second.arenas⟩
  intro index address old
  rcases second.blocks index address (Nat.lt_of_lt_of_le old first.nextAddress) with kept | gone
  · rw [kept]
    exact first.blocks index address old
  · exact .inr gone

theorem addArena (heap : Heap) : heap.Onward heap.addArena.2 where
  sound := Sound.addArena
  blocks index address _ := .inl (by rw [blockIn, arena_addArena, blockIn])
  nextAddress := Nat.le_refl _
  arenas := by simp [Heap.addArena]

theorem alloc {bytes : List UInt8} {buffer : Buffer}
    (allocated : heap.alloc index bytes = .ok (buffer, after)) : heap.Onward after := by
  by_cases bound : index < heap.arenas.length
  · have grown : heap.arenas.length ≤ after.arenas.length := by
      obtain ⟨-, -, rfl⟩ | ⟨-, -, -, arenas, -⟩ := arena_of_alloc bound allocated
      · exact Nat.le_refl _
      · exact Nat.le_of_eq arenas.symm
    obtain ⟨-, -, rfl⟩ | ⟨-, -, -, next, blocks⟩ := blockIn_of_alloc bound allocated
    · exact refl _
    · refine ⟨fun sound => sound.alloc bound allocated, ?_, by omega, grown⟩
      intro other address old
      rw [blocks, if_neg fun new => Nat.ne_of_lt old new.2]
      exact .inl rfl
  · -- There is no such arena, so that only an address is used up.
    unfold Heap.alloc at allocated
    split at allocated
    next => cases allocated
    next =>
      split at allocated
      next =>
        cases allocated
        exact refl _
      next =>
        rw [List.modify_eq_self (Nat.le_of_not_lt bound)] at allocated
        cases allocated
        refine ⟨?_, fun _ _ _ => .inl rfl, Nat.le_succ _, Nat.le_refl _⟩
        intro sound
        exact ⟨fun index address bytes live =>
          Nat.lt_succ_of_lt (sound.below index address bytes live), sound.apart⟩

theorem release {buffer : Buffer} (taken : heap.release index buffer = .ok after) :
    heap.Onward after := by
  cases named : buffer.address with
  | none =>
      rw [release_of_null named] at taken
      cases taken
      exact refl _
  | some address =>
      cases live : heap.blockIn index address with
      | none =>
          rw [release_of_dead named live] at taken
          cases taken
      | some bytes =>
          obtain ⟨other, done, released⟩ := release_of_live named live
          obtain rfl : other = after := by
            rw [done] at taken
            exact Except.ok.inj taken
          refine ⟨fun sound => sound.released released, ?_, Nat.le_of_eq released.nextAddress.symm,
            Nat.le_of_eq released.arenas.symm⟩
          intro place place' _
          by_cases freed : place = index ∧ place' = address
          · obtain ⟨rfl, rfl⟩ := freed
            exact .inr (released.gone _ named)
          · refine .inl (released.others place place' fun here meets => freed ⟨here, ?_⟩)
            exact (Option.some.inj (named.symm.trans meets)).symm

end Onward

end Heap

/-- A state that the calling side may come to from one with the heap `start`. -/
structure Caller.Since (start : Heap) (caller : Caller) : Prop where
  heap : start.Onward caller.heap
  active : caller.heap.Admits caller.active

namespace Caller

variable {start : Heap} {caller : Caller} {release : Buffer → Action Caller Unit}

theorem Since.onto (since : caller.Since start) {after : Caller}
    (heap : caller.heap.Onward after.heap) (active : after.active = caller.active) :
    after.Since start :=
  ⟨since.heap.trans heap, by rw [active]; exact since.active.mono heap.arenas⟩

theorem Since.aside (since : caller.Since start) {after : Caller} (heap : after.heap = caller.heap)
    (active : after.active = caller.active) : after.Since start :=
  since.onto (by rw [heap]; exact .refl _) active

/-- An action that does no more to the heap than let blocks come and go, from whatever heap on. -/
def Orderly {α : Type} (action : Action Caller α) : Prop :=
  ∀ start, action.Keeps (Since start)

theorem since_allocIn (index : Nat) (bytes : List UInt8) :
    (allocIn index bytes).Keeps (Since start) := by
  intro caller since
  unfold allocIn
  split
  next allocated => exact since.onto (.alloc allocated) rfl
  next => exact since

theorem since_releaseIn (index : Nat) (buffer : Buffer) :
    (releaseIn index buffer).Keeps (Since start) := by
  intro caller since
  unfold releaseIn
  split
  next taken => exact since.onto (.release taken) rfl
  next => exact since

theorem since_modify {change : Caller → Caller} (heap : ∀ caller, (change caller).heap = caller.heap)
    (active : ∀ caller, (change caller).active = caller.active) :
    (Action.modify change).Keeps (Since start) :=
  Action.keeps_modify fun caller since => since.aside (heap caller) (active caller)

theorem since_note (notice : Notice) : (note notice).Keeps (Since start) :=
  since_modify (fun _ => rfl) fun _ => rfl

theorem since_activate {allocator : Allocator}
    (foreign : ∀ index, allocator.source ≠ .arena index) :
    (activate allocator).Keeps (Since start) := by
  intro caller since
  exact ⟨since.heap, fun index source => (foreign index source).elim⟩

theorem since_onImage (index : Nat) (step : Image → Option Fill × Image) :
    (onImage index step).Keeps (Since start) := by
  intro caller since
  unfold onImage
  split
  · exact since
  · exact since.aside rfl rfl

theorem since_allocSymbol (index : Nat) (lent : LentBytes) :
    (allocSymbol index lent).Keeps (Since start) := by
  refine (since_onImage index _).bind fun (scripted, arena) => ?_
  cases scripted with
  | some fill => exact (keeps_fill (since_allocIn arena) fill).returning _
  | none => exact (since_allocIn arena _).returning _

theorem lasting_since : Lasting (Since start) where
  note := since_note
  allocIn := since_allocIn
  releaseIn := since_releaseIn
  nextFree index := since_onImage index _

theorem since_allocBy (allocator : Allocator) (bytes : List UInt8) :
    (allocBy allocator bytes).Keeps (Since start) := by
  unfold allocBy
  split
  · exact since_allocIn _ bytes
  · exact lasting_since.raising _ fun _ => since_allocSymbol _ _

theorem since_alloc (bytes : List UInt8) : (alloc bytes).Keeps (Since start) :=
  Action.keeps_state.bind fun _ => since_allocBy _ bytes

theorem since_function (function : ForeignFunction) : function.status.Keeps (Since start) :=
  keeps_fill since_alloc function.fill

theorem since_call (function : ForeignFunction) (arguments : List Datum) (status : CallStatus) :
    (function.call arguments status).Keeps (Since start) := by
  refine (since_function function).bind fun _ => ?_
  split
  · exact Action.keeps_fail _
  · exact (Action.keeps_ofExcept _).returning _

theorem since_bindFile (file : LibraryFile) (stem : String) :
    (bindFile file stem).Keeps (Since start) := by
  refine Action.Keeps.bind (fun caller since => since.onto (.addArena _) rfl) fun image => ?_
  refine Action.Keeps.bind (fun caller since => ?_) fun library caller since => since.aside rfl rfl
  unfold bindSymbols
  dsimp only
  split
  · exact since
  · split <;> exact since

theorem since_loadPath (path : Path) (stem : String) : (loadPath path stem).Keeps (Since start) := by
  refine Action.keeps_state.bind fun caller => ?_
  split
  · exact Action.keeps_pure _
  · refine Action.Keeps.bind ?_ fun file => (since_bindFile file stem).bind fun number => ?_
    · refine Action.keeps_state.bind fun _ => ?_
      split
      · exact Action.keeps_pure _
      · exact Action.keeps_fail _
    · refine Action.Keeps.returning (Action.Keeps.bind ?_ fun _ => since_note _) _
      exact since_modify (fun _ => rfl) fun _ => rfl

theorem since_libraryAllocator (name : String) (number : Nat) :
    (libraryAllocator name number).Keeps (Since start) := by
  refine Action.keeps_state.bind fun _ => ?_
  split
  · exact Action.keeps_pure _
  · exact Action.keeps_fail _

theorem source_of_libraryAllocator {name : String} {number : Nat} {caller after : Caller}
    {allocator : Allocator}
    (made : libraryAllocator name number caller = (.ok allocator, after)) :
    ∃ image, allocator.source = .image image := by
  rw [libraryAllocator, Action.bind_of_ok (Action.state_apply caller)] at made
  cases found : caller.libraries[number]? with
  | none =>
      rw [found] at made
      cases made
  | some library =>
      rw [found] at made
      cases made
      exact ⟨library.image, rfl⟩

theorem since_install {α : Type} (number : Nat) (value : α) :
    (do
      let _ ← activate (← libraryAllocator (libraryAllocatorName number) number)
      return value : Action Caller α).Keeps (Since start) := by
  intro caller since
  have found := since_libraryAllocator (libraryAllocatorName number) number caller since
  cases made : libraryAllocator (libraryAllocatorName number) number caller with
  | mk result after =>
      rw [made] at found
      cases result with
      | error fault =>
          rw [Action.bind_of_error made]
          exact found
      | ok allocator =>
          obtain ⟨image, source⟩ := source_of_libraryAllocator made
          rw [Action.bind_of_ok made]
          exact (since_activate (by simp [source])).returning (fun _ => value) after found

theorem since_loadLibrary (name : String) (stem : Option String) (install : Bool) :
    (loadLibrary name stem install).Keeps (Since start) := by
  refine Action.keeps_state.bind fun caller => (Action.keeps_ofExcept _).bind fun found => ?_
  cases found with
  | none => exact Action.keeps_pure _
  | some path =>
      refine (since_loadPath path _).bind fun number => ?_
      cases install with
      | false => exact Action.keeps_pure _
      | true => exact since_install number _

theorem since_checkContract (number : Nat) (expected : Int) :
    (checkContract number expected).Keeps (Since start) := by
  refine Action.keeps_state.bind fun caller => ?_
  split
  · exact Action.keeps_fail _
  · dsimp only
    split
    · exact Action.keeps_fail _
    · split
      · exact Action.keeps_fail _
      · exact Action.keeps_pure _

end Caller

end ForeignCall
