import ForeignCall.Proofs.Payload.Ignoring
import ForeignCall.Proofs.Payload.Texts
import ForeignCall.Session.Run

/-! The codec of a lifter. It is chosen by name when the lifter is made, and what the environment says
later has no part in what is lifted. -/

namespace ForeignCall

namespace Codec

/-- The name that decides: one given outright, as it stands, else the one the environment prefers,
without blanks around it and in lower case, else that of JSON. -/
inductive Named (settings : Settings) : Option String → String → Prop
  | given {name : String} (nonempty : name ≠ "") : Named settings (some name) name
  | preferred {explicit : Option String} {raw : String} (absent : explicit.getD "" = "")
      (set : settings.wire = some raw) (present : Text.trimmed raw ≠ "") :
      Named settings explicit (Text.lowercased (Text.trimmed raw))
  | standard {explicit : Option String} (absent : explicit.getD "" = "")
      (blank : Text.trimmed (settings.wire.getD "") = "") : Named settings explicit "json"

variable {settings : Settings} {explicit : Option String} {name other : String} {codec : Codec}
  {bytes : List UInt8}

theorem ofName_name (codec : Codec) : ofName codec.name = .ok codec := by
  cases codec <;> rfl

theorem exists_name_eq_iff : (∃ codec : Codec, codec.name = name) ↔
    name ∈ ["json", "msgpack", "utf8", "raw"] := by
  simp only [List.mem_cons, List.not_mem_nil, or_false]
  constructor
  · rintro ⟨codec, rfl⟩
    cases codec <;> simp [Codec.name]
  · rintro (rfl | rfl | rfl | rfl)
    exacts [⟨.json, rfl⟩, ⟨.msgpack, rfl⟩, ⟨.utf8, rfl⟩, ⟨.raw, rfl⟩]

theorem ofName_of_not_mem (unknown : name ∉ ["json", "msgpack", "utf8", "raw"]) :
    ofName name = .error (.unknownCodec name) := by
  rw [← exists_name_eq_iff, not_exists] at unknown
  have missing : (all.find? fun codec => codec.name = name) = none :=
    List.find?_eq_none.mpr fun codec _ => by simpa using unknown codec
  rw [ofName, missing]

theorem preferredWire_of_blank (blank : Text.trimmed (settings.wire.getD "") = "") :
    settings.preferredWire = none := by
  simp [Settings.preferredWire, Settings.present, blank]

theorem preferredWire_of_present {raw : String} (set : settings.wire = some raw)
    (present : Text.trimmed raw ≠ "") :
    settings.preferredWire = some (Text.lowercased (Text.trimmed raw)) := by
  simp [Settings.preferredWire, Settings.present, set, present]

theorem resolve_of_absent (absent : explicit.getD "" = "") :
    resolve explicit settings = ofName (settings.preferredWire.getD "json") := by
  cases explicit with
  | none => rfl
  | some name =>
      have empty : name = "" := absent
      simp [resolve, empty]

theorem Named.resolve_eq (named : Named settings explicit name) :
    resolve explicit settings = ofName name := by
  cases named with
  | given nonempty => simp [resolve, nonempty]
  | preferred absent set present =>
      rw [resolve_of_absent absent, preferredWire_of_present set present, Option.getD_some]
  | standard absent blank =>
      rw [resolve_of_absent absent, preferredWire_of_blank blank, Option.getD_none]

theorem Named.unique (named : Named settings explicit name)
    (again : Named settings explicit other) : other = name := by
  cases named with
  | given nonempty =>
      cases again with
      | given => rfl
      | preferred absent => exact absurd absent nonempty
      | standard absent => exact absurd absent nonempty
  | preferred absent set present =>
      cases again with
      | given nonempty => exact absurd absent nonempty
      | preferred _ set' => rw [Option.some.inj (set.symm.trans set')]
      | standard _ blank => exact absurd (by rwa [set] at blank) present
  | standard absent blank =>
      cases again with
      | given nonempty => exact absurd absent nonempty
      | preferred _ set present => exact absurd (by rwa [set] at blank) present
      | standard => rfl

theorem exists_named (settings : Settings) (explicit : Option String) :
    ∃ name, Named settings explicit name := by
  by_cases absent : explicit.getD "" = ""
  · cases set : settings.wire with
    | none => exact ⟨"json", .standard absent (by rw [set]; rfl)⟩
    | some raw =>
        by_cases blank : Text.trimmed raw = ""
        · exact ⟨"json", .standard absent (by rwa [set])⟩
        · exact ⟨_, .preferred absent set blank⟩
  · cases explicit with
    | none => exact absurd rfl absent
    | some name => exact ⟨name, .given absent⟩

/-- Whatever is wrong with a payload, it is not its codec. -/
theorem decode_ne_unknown (bytes : List UInt8) (codec : Codec) (name : String) :
    decode bytes codec ≠ .error (.unknownCodec name) := by
  cases codec with
  | json =>
      simp only [decode, decodeJson, decodeUtf8]
      cases Utf8.decode bytes with
      | error flaw => simp
      | ok chars => cases h : Json.decode chars <;> simp [h]
  | msgpack =>
      simp only [decode, decodeMessagePack]
      cases MessagePack.decode bytes <;> simp
  | utf8 =>
      simp only [decode, decodeUtf8]
      cases Utf8.decode bytes <;> simp
  | raw => simp [decode]

theorem decodeNamed_name (bytes : List UInt8) (codec : Codec) :
    decodeNamed bytes codec.name = decode bytes codec := by
  rw [decodeNamed, ofName_name]

end Codec

/-- A variable of the environment has another value, or none any more. -/
def Caller.withVariable (key : Session.Variable) (value : Option String) (caller : Caller) :
    Caller :=
  caller.withSettings (Session.changeVariable caller.host.settings (key, value))

namespace Lifter

/-- What happens once a lifter is made. -/
inductive Event where
  | change (key : Session.Variable) (value : Option String)
  | lift (payload : Buffer)

def Event.payload? : Event → Option Buffer
  | .change _ _ => none
  | .lift payload => some payload

/-- What one payload after the other is lifted to while the environment changes. -/
def run (lifter : Lifter) : List Event → Caller → List (Except Fault Fault) × Caller
  | [], caller => ([], caller)
  | .change key value :: rest, caller => lifter.run rest (caller.withVariable key value)
  | .lift payload :: rest, caller =>
      let lifted := lifter.lift Caller.free payload caller
      (lifted.1 :: (lifter.run rest lifted.2).1, (lifter.run rest lifted.2).2)

/-- Every payload can be read and given back when its turn comes. -/
inductive Live (index : Nat) : Caller → List Event → List (List UInt8) → Prop
  | nil (caller : Caller) : Live index caller [] []
  | change {caller : Caller} {rest : List Event} {payloads : List (List UInt8)}
      (key : Session.Variable) (value : Option String)
      (later : Live index (caller.withVariable key value) rest payloads) :
      Live index caller (.change key value :: rest) payloads
  | lift {caller after : Caller} {payload : Buffer} {bytes : List UInt8} {rest : List Event}
      {payloads : List (List UInt8)} (sound : caller.heap.Sound)
      (shows : caller.heap.Shows index payload bytes)
      (freed : Caller.free payload caller = (.ok (), after))
      (later : Live index after rest payloads) :
      Live index caller (.lift payload :: rest) (bytes :: payloads)

/-- A lifter makes of every payload what the codec with a name and a factory make of its bytes, and
gives the payload back. That the environment changes makes no difference, and the codec is known. -/
structure Decodes (name : String) (factory : Datum → Except Fault Fault) (lifter : Lifter) :
    Prop where
  lifts : ∀ {caller counted : Caller} {index : Nat} {payload : Buffer} {bytes : List UInt8},
    caller.heap.Sound → caller.heap.Shows index payload bytes → caller.Reaches index counted →
    ∃ heap, Heap.Released index payload caller.heap heap ∧
      ∀ settings, lifter.lift Caller.free payload (caller.withSettings settings) =
        ((Codec.decodeNamed bytes name).bind factory,
          { counted with heap }.withSettings settings)
  runs : ∀ {caller : Caller} {index : Nat} {events : List Event} {payloads : List (List UInt8)},
    Live index caller events payloads →
    (lifter.run events caller).1 =
      payloads.map fun bytes => (Codec.decodeNamed bytes name).bind factory
  apart : ∀ (caller : Caller) (settings : Settings) (events events' : List Event),
    events.filterMap Event.payload? = events'.filterMap Event.payload? →
    (lifter.run events caller).1 = (lifter.run events' (caller.withSettings settings)).1 ∧
      ∃ later, (lifter.run events' (caller.withSettings settings)).2 =
        (lifter.run events caller).2.withSettings later
  known : ∀ bytes other, Codec.decodeNamed bytes name ≠ .error (.unknownCodec other)

variable {caller counted : Caller} {index : Nat} {payload : Buffer} {bytes : List UInt8}
  {lifter : Lifter} {codec : Codec} {factory : Datum → Except Fault Fault}

theorem ofPayload_eq (codec : Codec) (factory : Datum → Except Fault Fault) (bytes : List UInt8) :
    ofPayload codec factory bytes = (Codec.decodeNamed bytes codec.name).bind factory := by
  rw [Codec.decodeNamed_name, ofPayload]
  cases Codec.decode bytes codec <;> rfl

theorem lift_serialized (sound : caller.heap.Sound) (shows : caller.heap.Shows index payload bytes)
    {after : Caller} (freed : Caller.free payload caller = (.ok (), after)) :
    (serialized codec factory).lift Caller.free payload caller =
      ((Codec.decodeNamed bytes codec.name).bind factory, after) := by
  have owning : (serialized codec factory).Owning := trivial
  rw [lift_eq owning (sound.read_of_shows shows) freed, ← ofPayload_eq]
  rfl

theorem run_serialized {events : List Event} {payloads : List (List UInt8)}
    (live : Live index caller events payloads) :
    ((serialized codec factory).run events caller).1 =
      payloads.map fun bytes => (Codec.decodeNamed bytes codec.name).bind factory := by
  induction live with
  | nil caller => rfl
  | change key value later ih => exact ih
  | lift sound shows freed later ih =>
      rw [run, lift_serialized sound shows freed, ih]
      rfl

/-- The changes of the environment can be left out of a run, and are as good as made at its end. -/
theorem run_eq (lifter : Lifter) (events : List Event) (caller : Caller) (settings : Settings) :
    ∃ later, lifter.run events (caller.withSettings settings) =
      ((lifter.run ((events.filterMap Event.payload?).map .lift) caller).1,
        (lifter.run ((events.filterMap Event.payload?).map .lift) caller).2.withSettings later) := by
  induction events generalizing caller settings with
  | nil => exact ⟨settings, rfl⟩
  | cons event rest ih =>
      cases event with
      | change key value => exact ih caller _
      | lift payload =>
          obtain ⟨later, ran⟩ := ih (lifter.lift Caller.free payload caller).2 settings
          refine ⟨later, ?_⟩
          rw [run, Caller.ignores_lift lifter payload caller]
          dsimp only
          rw [ran]
          rfl

theorem run_apart (lifter : Lifter) (caller : Caller) (settings : Settings)
    {events events' : List Event}
    (same : events.filterMap Event.payload? = events'.filterMap Event.payload?) :
    (lifter.run events caller).1 = (lifter.run events' (caller.withSettings settings)).1 ∧
      ∃ later, (lifter.run events' (caller.withSettings settings)).2 =
        (lifter.run events caller).2.withSettings later := by
  obtain ⟨settled, ran⟩ := lifter.run_eq events caller caller.host.settings
  obtain ⟨later, ran'⟩ := lifter.run_eq events' caller settings
  have unchanged : caller.withSettings caller.host.settings = caller := rfl
  rw [unchanged, same] at ran
  rw [ran, ran']
  exact ⟨rfl, later, rfl⟩

theorem serialized_decodes (codec : Codec) (factory : Datum → Except Fault Fault) :
    (serialized codec factory).Decodes codec.name factory where
  lifts sound shows reaches := by
    obtain ⟨heap, released, freed⟩ := reaches.free shows
    refine ⟨heap, released, fun settings => ?_⟩
    rw [Caller.ignores_lift, lift_serialized sound shows freed]
  runs := run_serialized
  apart caller settings _ _ same := run_apart _ caller settings same
  known bytes other := by
    rw [Codec.decodeNamed_name]
    exact Codec.decode_ne_unknown bytes codec other

/-- Which name decides is settled when a lifter is made. If no codec has it, that is said, and there is
no lifter. Otherwise the lifter decodes by that codec, whatever the environment says later. -/
theorem serializing_by_name (factory : Datum → Except Fault Fault) (explicit : Option String)
    (settings : Settings) :
    ∃ name, Codec.Named settings explicit name ∧
      (∀ other, Codec.Named settings explicit other → other = name) ∧
      (name ∉ ["json", "msgpack", "utf8", "raw"] →
        serializing factory explicit settings = .error (.unknownCodec name) ∧
          (Fault.unknownCodec name).kind = .value ∧
          (Fault.unknownCodec name).message = s!"Unknown error payload codec '{name}'") ∧
      (name ∈ ["json", "msgpack", "utf8", "raw"] →
        ∃ lifter, serializing factory explicit settings = .ok lifter ∧
          lifter.Decodes name factory) := by
  obtain ⟨name, named⟩ := Codec.exists_named settings explicit
  refine ⟨name, named, fun other => named.unique, fun unknown => ?_, fun known => ?_⟩
  · refine ⟨?_, rfl, rfl⟩
    rw [serializing, named.resolve_eq, Codec.ofName_of_not_mem unknown]
  · obtain ⟨codec, rfl⟩ := Codec.exists_name_eq_iff.mpr known
    refine ⟨.serialized codec factory, ?_, serialized_decodes codec factory⟩
    rw [serializing, named.resolve_eq, Codec.ofName_name]

/-- A preference spelled loosely holds on when the environment has come to say another. -/
theorem serializing_by_name_respelled :
    ∃ lifter, serializing (fun value => .ok (.domain value)) (some "") ⟨none, none, some " Raw\n"⟩ =
        .ok lifter ∧
      (lifter.run [.change .wire (some "json"), .lift undecodableError.payload] withPayload).1 =
        [.ok (.domain (.bytes [0xff, 0xfe]))] := by
  have spelled : Text.lowercased (Text.trimmed " Raw\n") = "raw" := by decide +kernel
  have preferred : Codec.Named ⟨none, none, some " Raw\n"⟩ (some "")
      (Text.lowercased (Text.trimmed " Raw\n")) :=
    .preferred rfl rfl (by decide)
  rw [spelled] at preferred
  obtain ⟨name, -, unique, -, known⟩ := serializing_by_name (fun value => .ok (.domain value))
    (some "") ⟨none, none, some " Raw\n"⟩
  obtain rfl := unique "raw" preferred
  obtain ⟨lifter, made, decodes⟩ := known (by decide)
  have carries := withPayload_carries
  obtain ⟨heap, -, freed⟩ := carries.free
  have later : ∀ settings, Caller.free undecodableError.payload (withPayload.withSettings settings) =
      (.ok (), { withPayload with heap }.withSettings settings) := by
    intro settings
    rw [Caller.ignores_free, freed]
  have live : Live 0 withPayload
      [.change .wire (some "json"), .lift undecodableError.payload] [[0xff, 0xfe]] :=
    .change .wire (some "json") (.lift carries.sound carries.held.shows (later _) (.nil _))
  exact ⟨lifter, made, decodes.runs live⟩

end Lifter

end ForeignCall
