import ForeignCall.Proofs.Arenas.Keeping
import ForeignCall.Proofs.Payload.Blocks

/-! Bytes lent to a library that is to make a block for them. An arena of this side refuses more
bytes than a length can tell. The allocator of a library lends any number of them, and the length it
tells is then another one. -/

namespace ForeignCall

namespace LentBytes

theorem length_ofBytes (bytes : List UInt8) :
    (ofBytes bytes).length.toInt = (bytes.length : Int).bmod 0x100000000 :=
  Int32.toInt_ofNat'

theorem length_ofBytes_eq_iff (bytes : List UInt8) :
    (ofBytes bytes).length.toInt = bytes.length ↔ bytes.length ≤ Buffer.maxLength := by
  rw [length_ofBytes, Buffer.maxLength, Int.bmod_def]
  omega

end LentBytes

namespace Caller

/-- The allocating symbol of a library has been called once, with the bytes, and no other library's
has been called. -/
structure LentOnce (index : Nat) (lent : LentBytes) (before after : Caller) : Prop where
  once : after.lends index = lent :: before.lends index
  others : ∀ other, other ≠ index → after.lends other = before.lends other

/-- An allocator refuses the bytes because of their number, and does nothing else. -/
def Refuses (caller : Caller) (allocator : Allocator) (bytes : List UInt8) : Prop :=
  allocBy allocator bytes caller = (.error (.bufferTooLong bytes.length), caller)

/-- A library's allocator refuses what an arena does. All else it lends to its symbol once, and says
how many bytes these are. -/
structure AdmitsAlike (caller : Caller) (native plain : Allocator) (index : Nat)
    (bytes : List UInt8) : Prop where
  refuses : caller.Refuses native bytes ↔ caller.Refuses plain bytes
  lends : ¬ caller.Refuses plain bytes → ∃ lent : LentBytes,
    LentOnce index lent caller (allocBy native bytes caller).2 ∧
      lent.bytes.get = bytes ∧ lent.length.toInt = bytes.length

variable {caller : Caller} {native plain : Allocator} {index place : Nat} {image : Image}

theorem lends_of_found (found : caller.images[index]? = some image) :
    caller.lends index = image.lends := by
  rw [lends, found]
  rfl

theorem lends_set (found : caller.images[index]? = some image) (changed : Image) (other : Nat) :
    lends { caller with images := caller.images.set index changed } other =
      if other = index then changed.lends else caller.lends other :=
  told_set found Image.lends [] changed other

/-- Releases lend nothing. -/
theorem lasting_lends (lent : Nat → List LentBytes) :
    Lasting fun caller => ∀ other, caller.lends other = lent other where
  note notice := Action.keeps_modify fun caller same => same
  allocIn index bytes caller same := by
    unfold allocIn
    split <;> exact same
  releaseIn index buffer caller same := by
    unfold releaseIn
    split <;> exact same
  nextFree index caller same := by
    cases found : caller.images[index]? with
    | none =>
        rw [onImage, found]
        exact same
    | some image =>
        rw [onImage_of_found found]
        intro other
        rw [lends_set found, ← same]
        split
        next here => rw [here, lends_of_found found, Image.nextFree]
        next => rfl

theorem lentOnce_allocSymbol (found : caller.images[index]? = some image) (lent : LentBytes) :
    LentOnce index lent caller (allocSymbol index lent caller).2 := by
  have lasting := lasting_lends fun other =>
    if other = index then lent :: caller.lends index else caller.lends other
  -- The call is noted before the symbol has done anything.
  have noted : lends { caller with images := caller.images.set index (image.nextAlloc lent).2 } =
      fun other => if other = index then lent :: caller.lends index else caller.lends other := by
    funext other
    rw [lends_set found, lends_of_found found, Image.nextAlloc]
  have kept : ∀ other, lends (allocSymbol index lent caller).2 other =
      if other = index then lent :: caller.lends index else caller.lends other := by
    rw [allocSymbol, Action.bind_of_ok (onImage_of_found found _)]
    dsimp only
    cases (image.nextAlloc lent).1 with
    | some fill =>
        exact (keeps_fill (lasting.allocIn image.arena) fill).returning _ _ (congrFun noted)
    | none => exact (lasting.allocIn image.arena _).returning _ _ (congrFun noted)
  exact ⟨(kept index).trans (if_pos rfl),
    fun other different => (kept other).trans (if_neg different)⟩

/-- Whatever its symbol reports, and whatever releases that leads to. -/
theorem lentOnce_allocBy (source : native.source = .image index)
    (found : caller.images[index]? = some image) (bytes : List UInt8) :
    LentOnce index (.ofBytes bytes) caller (allocBy native bytes caller).2 := by
  obtain ⟨once, others⟩ := lentOnce_allocSymbol found (.ofBytes bytes)
  have lasting := lasting_lends (allocSymbol index (.ofBytes bytes) caller).2.lends
  have kept : ∀ other, (allocBy native bytes caller).2.lends other =
      (allocSymbol index (.ofBytes bytes) caller).2.lends other := by
    rw [allocBy, source]
    exact lasting.raising_of_called .undeclared fun _ => rfl
  exact ⟨(kept index).trans once,
    fun other different => (kept other).trans (others other different)⟩

theorem LentOnce.ne {lent : LentBytes} {after : Caller}
    (lentOnce : LentOnce index lent caller after) : after ≠ caller := by
  rintro rfl
  exact List.cons_ne_self _ _ lentOnce.once.symm

theorem refuses_iff (source : plain.source = .arena place) (bytes : List UInt8) :
    caller.Refuses plain bytes ↔ Buffer.maxLength < bytes.length := by
  rw [Refuses, allocBy, source]
  dsimp only
  rw [allocIn, Heap.alloc]
  by_cases long : Buffer.maxLength < bytes.length
  · rw [if_pos long]
    exact iff_of_true rfl long
  · rw [if_neg long]
    refine iff_of_false (fun refused => ?_) long
    cases empty : bytes.isEmpty <;> simp [empty] at refused

theorem admitsAlike_iff (source : native.source = .image index)
    (found : caller.images[index]? = some image) (arena : plain.source = .arena place)
    (bytes : List UInt8) :
    caller.AdmitsAlike native plain index bytes ↔ bytes.length ≤ Buffer.maxLength := by
  have lentOnce := lentOnce_allocBy source found bytes
  have admitted : ¬ caller.Refuses native bytes := fun refused =>
    lentOnce.ne (congrArg Prod.snd refused)
  constructor
  · intro alike
    by_contra long
    have refused : caller.Refuses plain bytes := (refuses_iff arena bytes).mpr (Nat.not_le.mp long)
    exact admitted (alike.refuses.mpr refused)
  · intro fits
    have length := (LentBytes.length_ofBytes_eq_iff bytes).mpr fits
    have fit : ¬ caller.Refuses plain bytes :=
      mt (refuses_iff arena bytes).mp (Nat.not_lt.mpr fits)
    exact ⟨iff_of_false admitted fit, fun _ => ⟨.ofBytes bytes, lentOnce, rfl, length⟩⟩

/-- The allocator of an opened library calls its symbol once, with all the bytes and the low 32 bits
of their number, however many there are. An arena refuses those that are too many, and so the two do
the same just where they are not. -/
theorem lent_at_any_length (source : native.source = .image index)
    (found : caller.images[index]? = some image) (bytes : List UInt8) :
    LentOnce index (.ofBytes bytes) caller (allocBy native bytes caller).2 ∧
    (LentBytes.ofBytes bytes).bytes.get = bytes ∧
    (LentBytes.ofBytes bytes).length.toInt = (bytes.length : Int).bmod 0x100000000 ∧
    (Fault.bufferTooLong bytes.length).kind = .overflow ∧
    ∀ plain place, plain.source = .arena place →
      (caller.Refuses plain bytes ↔ Buffer.maxLength < bytes.length) ∧
      (caller.AdmitsAlike native plain index bytes ↔ bytes.length ≤ Buffer.maxLength) :=
  ⟨lentOnce_allocBy source found bytes, rfl, LentBytes.length_ofBytes bytes, rfl,
    fun _ _ arena => ⟨refuses_iff arena bytes, admitsAlike_iff source found arena bytes⟩⟩

/-- One library has been opened, whose symbols have nothing scripted to answer. -/
def withLibrary : Caller :=
  { Caller.initial .bare 8 with
    heap := (Caller.initial .bare 8).heap.addArena.2
    images := [⟨["demo_rustbuffer_from_bytes", "demo_rustbuffer_free"], 0, 1, [], [], [], 0⟩] }

theorem lent_at_any_length_two :
    (⟨"library", .image 0⟩ : Allocator).source = .image 0 ∧
      LentOnce 0 (.ofBytes [120, 121]) withLibrary
        (allocBy ⟨"library", .image 0⟩ [120, 121] withLibrary).2 ∧
      withLibrary.AdmitsAlike ⟨"library", .image 0⟩ ⟨"main", .arena 0⟩ 0 [120, 121] :=
  have source : (⟨"library", .image 0⟩ : Allocator).source = .image 0 := rfl
  have found : withLibrary.images[0]? = some _ := rfl
  have lent := lent_at_any_length source found [120, 121]
  ⟨source, lent.1, (lent.2.2.2.2 ⟨"main", .arena 0⟩ 0 rfl).2.mpr (by decide)⟩

/-- One byte more than a length can tell. -/
def overlong : List UInt8 :=
  List.replicate 0x80000000 120

theorem length_overlong : overlong.length = 0x80000000 :=
  List.length_replicate

/-- An arena refuses them, and the library is told of less than nothing. -/
theorem admits_overlong :
    withLibrary.Refuses ⟨"main", .arena 0⟩ overlong ∧
      (allocBy ⟨"library", .image 0⟩ overlong withLibrary).2.lends 0 = [.ofBytes overlong] ∧
      (LentBytes.ofBytes overlong).length.toInt = -0x80000000 ∧
      ¬ withLibrary.AdmitsAlike ⟨"library", .image 0⟩ ⟨"main", .arena 0⟩ 0 overlong := by
  have source : (⟨"library", .image 0⟩ : Allocator).source = .image 0 := rfl
  have arena : (⟨"main", .arena 0⟩ : Allocator).source = .arena 0 := rfl
  have found : withLibrary.images[0]? = some _ := rfl
  have long : Buffer.maxLength < overlong.length := by
    rw [length_overlong]
    decide
  refine ⟨(refuses_iff arena overlong).mpr long, (lentOnce_allocBy source found overlong).once, ?_,
    ?_⟩
  · rw [LentBytes.length_ofBytes, length_overlong]
    decide
  · rw [admitsAlike_iff source found arena]
    exact Nat.not_le.mpr long

end Caller

end ForeignCall
