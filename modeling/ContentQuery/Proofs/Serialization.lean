import ContentQuery.Serial
import Mathlib.Data.List.Forall2

/-!
# What serialized data becomes

Data is read from left to right, and what is in it before what is around it: a key before it is looked at
whether it is a text, a value before it is asked under which key it goes. The first fault ends the reading. Data
without any fault becomes the value that its shape says.
-/

namespace ContentQuery

/-! ### The last value under each key -/

namespace Table

variable {α : Type} {given : List (String × α)}

/-- The entries are what was given last under each key. -/
structure Keeps (t : Table α) (given : List (String × α)) : Prop where
  nodup : (t.map Prod.fst).Nodup
  get? : ∀ key, t.get? key = Table.get? given.reverse key

theorem keeps_nil : Keeps ([] : Table α) [] :=
  ⟨List.nodup_nil, fun _ => rfl⟩

theorem Keeps.insert {d : Dictionary α} (h : d.entries.Keeps given) (key : String) (value : α) :
    (d.insert key value).entries.Keeps (given ++ [(key, value)]) := by
  refine ⟨(d.insert key value).distinct, fun other => ?_⟩
  rw [Dictionary.insert, get?_insert, h.get?, List.reverse_append, List.reverse_singleton,
    List.singleton_append, get?_cons]

end Table

/-! ### Parts of data -/

/-- The key or the value that is given in a step. -/
def MapStep.data : MapStep → Serial
  | key k => k
  | value v => v

namespace Serial

/-- What the data holds directly, keys included. -/
def parts : Serial → List Serial
  | wrapped inner => [inner]
  | sequence items | tupleVariant _ _ items => items
  | map steps => steps.map MapStep.data
  | record fields | recordVariant _ _ fields => fields.map Prod.snd
  | unit | scalar _ | unsupported _ | failing _ | unitVariant _ => []

section

variable {motive : Serial → Prop}

mutual

/-- Induction on data, with the hypothesis for all parts. -/
theorem induct_parts (step : ∀ s, (∀ p ∈ s.parts, motive p) → motive s) : ∀ s, motive s
  | unit => step unit nofun
  | scalar v => step (scalar v) nofun
  | unsupported kind => step (unsupported kind) nofun
  | failing text => step (failing text) nofun
  | unitVariant variant => step (unitVariant variant) nofun
  | wrapped inner => step (wrapped inner) (List.forall_mem_singleton.mpr (induct_parts step inner))
  | sequence items => step (sequence items) (induct_items step items)
  | tupleVariant type variant items => step (tupleVariant type variant items) (induct_items step items)
  | map steps => step (map steps) (induct_steps step steps)
  | record fields => step (record fields) (induct_fields step fields)
  | recordVariant type variant fields => step (recordVariant type variant fields) (induct_fields step fields)

theorem induct_items (step : ∀ s, (∀ p ∈ s.parts, motive p) → motive s) :
    ∀ items : List Serial, ∀ p ∈ items, motive p
  | [] => nofun
  | item :: rest => List.forall_mem_cons.mpr ⟨induct_parts step item, induct_items step rest⟩

theorem induct_steps (step : ∀ s, (∀ p ∈ s.parts, motive p) → motive s) :
    ∀ steps : List MapStep, ∀ p ∈ steps.map MapStep.data, motive p
  | [] => nofun
  | .key k :: rest => List.forall_mem_cons.mpr ⟨induct_parts step k, induct_steps step rest⟩
  | .value v :: rest => List.forall_mem_cons.mpr ⟨induct_parts step v, induct_steps step rest⟩

theorem induct_fields (step : ∀ s, (∀ p ∈ s.parts, motive p) → motive s) :
    ∀ fields : List (String × Serial), ∀ p ∈ fields.map Prod.snd, motive p
  | [] => nofun
  | (_, data) :: rest => List.forall_mem_cons.mpr ⟨induct_parts step data, induct_fields step rest⟩

end

end

/-- The data itself, and whatever it holds at any depth. -/
inductive Within : Serial → Serial → Prop
  | self (s : Serial) : Within s s
  | part {x p s : Serial} (h : p ∈ s.parts) (below : Within x p) : Within x s

theorem forall_within_iff {P : Serial → Prop} {s : Serial} :
    (∀ x, x.Within s → P x) ↔ P s ∧ ∀ p ∈ s.parts, ∀ x, x.Within p → P x := by
  constructor
  · intro all
    exact ⟨all s (.self s), fun p mem x below => all x (.part mem below)⟩
  · rintro ⟨here, below⟩ x within
    cases within with
    | self => exact here
    | part mem within => exact below _ mem x within

/-! ### Faults in their order -/

/-- The fault of a key that can be read but is no text. -/
def keyFaults (k : Serial) : List SerialFault :=
  match k.toValue with
  | .error _ | .ok (.str _) | .ok (.char _) => []
  | .ok v => [.keyNotText v]

mutual

/-- The faults of the data in the order in which it is read. A variant with fields is refused before they are
read. -/
def faults : Serial → List SerialFault
  | unit | scalar _ | unitVariant _ => []
  | unsupported kind => [.unsupported kind]
  | failing text => [.custom text]
  | wrapped inner => inner.faults
  | sequence items => faultsOfAll items
  | tupleVariant type variant _ | recordVariant type variant _ => [.variantWithFields type variant]
  | map steps => faultsOfSteps false steps
  | record fields => faultsOfFields fields

def faultsOfAll : List Serial → List SerialFault
  | [] => []
  | item :: rest => item.faults ++ faultsOfAll rest

/-- The faults of the steps that come when there is a key for a value, or none. -/
def faultsOfSteps (keyed : Bool) : List MapStep → List SerialFault
  | [] => []
  | .key k :: rest => k.faults ++ (keyFaults k ++ faultsOfSteps true rest)
  | .value v :: rest =>
    v.faults ++ ((if keyed then [] else [.valueWithoutKey]) ++ faultsOfSteps false rest)

def faultsOfFields : List (String × Serial) → List SerialFault
  | [] => []
  | (_, data) :: rest => data.faults ++ faultsOfFields rest

end

/-- The result is the first fault of a list, if there is one. -/
def Reports {α : Type} (result : Except QueryError α) : List SerialFault → Prop
  | [] => ∃ a, result = .ok a
  | fault :: _ => result = .error (.serialization fault)

section

variable {α β : Type} {result : Except QueryError α} {next : α → Except QueryError β}
  {here later : List SerialFault}

theorem exists_of_bind_eq_ok {b : β} (h : result >>= next = .ok b) : ∃ a, result = .ok a ∧ next a = .ok b := by
  cases result with
  | error e => cases h
  | ok a => exact ⟨a, rfl, h⟩

theorem exists_of_map_eq_ok {f : α → β} {b : β} (h : result.map f = .ok b) : ∃ a, result = .ok a ∧ f a = b := by
  cases result with
  | error e => cases h
  | ok a => exact ⟨a, rfl, Except.ok.inj h⟩

theorem Reports.bind (first : Reports result here) (second : ∀ a, result = .ok a → Reports (next a) later) :
    Reports (result >>= next) (here ++ later) := by
  cases here with
  | nil =>
    obtain ⟨a, rfl⟩ := first
    exact second a rfl
  | cons fault rest =>
    obtain rfl := first
    rfl

theorem Reports.map (h : Reports result here) (f : α → β) : Reports (result.map f) here := by
  cases here with
  | nil =>
    obtain ⟨a, rfl⟩ := h
    exact ⟨f a, rfl⟩
  | cons fault rest =>
    obtain rfl := h
    rfl

theorem Reports.ok_iff (h : Reports result here) : (∃ a, result = .ok a) ↔ here = [] := by
  cases here with
  | nil => exact iff_of_true h rfl
  | cons fault rest =>
    obtain rfl := h
    simp

theorem Reports.error_iff (h : Reports result here) (e : QueryError) :
    result = .error e ↔ ∃ fault, here.head? = some fault ∧ e = .serialization fault := by
  cases here with
  | nil =>
    obtain ⟨a, rfl⟩ := h
    simp
  | cons fault rest =>
    obtain rfl := h
    simp [eq_comm]

end

theorem reports_keyText {k : Serial} {v : Value} (read : k.toValue = .ok v) :
    Reports (keyText v) (keyFaults k) := by
  rw [keyFaults, read]
  cases v with
  | str s => exact ⟨s, rfl⟩
  | char c => exact ⟨c.toString, rfl⟩
  | _ => rfl

theorem reports_toValues {items : List Serial} (h : ∀ p ∈ items, Reports p.toValue p.faults) :
    Reports (toValues items) (faultsOfAll items) := by
  induction items with
  | nil => exact ⟨[], rfl⟩
  | cons item rest ih =>
    obtain ⟨first, others⟩ := List.forall_mem_cons.mp h
    exact first.bind fun v _ => (ih others).map (v :: ·)

theorem reports_addSteps {steps : List MapStep} (h : ∀ p ∈ steps.map MapStep.data, Reports p.toValue p.faults)
    (entered : Dictionary Value) (key? : Option String) :
    Reports (addSteps steps entered key?) (faultsOfSteps key?.isSome steps) := by
  induction steps generalizing entered key? with
  | nil => exact ⟨entered, rfl⟩
  | cons step rest ih =>
    obtain ⟨first, others⟩ := List.forall_mem_cons.mp h
    cases step with
    | key k =>
      refine first.bind fun v read => ?_
      exact (reports_keyText read).bind fun key _ => ih others entered (some key)
    | value data =>
      refine first.bind fun v _ => ?_
      cases key? with
      | none => rfl
      | some key => exact ih others (entered.insert key v) none

theorem reports_addFields {fields : List (String × Serial)}
    (h : ∀ p ∈ fields.map Prod.snd, Reports p.toValue p.faults) (entered : Dictionary Value) :
    Reports (addFields fields entered) (faultsOfFields fields) := by
  induction fields generalizing entered with
  | nil => exact ⟨entered, rfl⟩
  | cons f rest ih =>
    obtain ⟨first, others⟩ := List.forall_mem_cons.mp h
    exact first.bind fun v _ => ih others (entered.insert f.1 v)

theorem reports_toValue (s : Serial) : Reports s.toValue s.faults := by
  induction s using induct_parts with
  | step s ih =>
    cases s with
    | unit => exact ⟨_, rfl⟩
    | scalar v => exact ⟨_, rfl⟩
    | unitVariant variant => exact ⟨_, rfl⟩
    | unsupported | failing | tupleVariant | recordVariant => rfl
    | wrapped inner => exact ih inner (List.mem_singleton_self inner)
    | sequence items => exact (reports_toValues ih).map Value.list
    | map steps => exact (reports_addSteps ih .empty none).map fun entered => Value.map entered.entries
    | record fields => exact (reports_addFields ih .empty).map fun entered => Value.map entered.entries

/-! ### Data without faults -/

/-- Every value has a key that was given since the value before it. At the beginning there may be a key. -/
def EachKeyed (keyed : Bool) (steps : List MapStep) : Prop :=
  ∀ before v after, steps = before ++ .value v :: after →
    (keyed = true ∧ ∀ w, .value w ∉ before) ∨
      ∃ earlier k later, before = earlier ++ .key k :: later ∧ ∀ w, .value w ∉ later

/-- The keys are texts, and every value has a key of its own. -/
structure KeysFit (steps : List MapStep) : Prop where
  texts : ∀ k, .key k ∈ steps →
    (∃ text, k.toValue = .ok (.str text)) ∨ ∃ c, k.toValue = .ok (.char c)
  keyed : ∀ before v after, steps = before ++ .value v :: after →
    ∃ earlier k later, before = earlier ++ .key k :: later ∧ ∀ w, .value w ∉ later

/-- The data is none that has no value whatever its parts are. -/
def IsBindable : Serial → Prop
  | unsupported _ | failing _ | tupleVariant .. | recordVariant .. => False
  | map steps => KeysFit steps
  | unit | scalar _ | wrapped _ | unitVariant _ | sequence _ | record _ => True

section

variable {keyed : Bool} {steps rest : List MapStep} {k v : Serial}

theorem eachKeyed_nil : EachKeyed keyed [] := by
  intro before v after same
  simp at same

theorem eachKeyed_key : EachKeyed keyed (.key k :: rest) ↔ EachKeyed true rest := by
  constructor
  · rintro each before v after rfl
    rcases each (.key k :: before) v after rfl with ⟨-, none⟩ | ⟨earlier, k', later, same, none⟩
    · exact .inl ⟨rfl, fun w mem => none w (List.mem_cons_of_mem _ mem)⟩
    · cases earlier with
      | nil =>
        obtain ⟨-, rfl⟩ := List.cons.inj same
        exact .inl ⟨rfl, none⟩
      | cons step earlier =>
        obtain ⟨-, rfl⟩ := List.cons.inj same
        exact .inr ⟨earlier, k', later, rfl, none⟩
  · intro each before v after same
    cases before with
    | nil => simp at same
    | cons step before =>
      obtain ⟨rfl, rfl⟩ := List.cons.inj same
      rcases each before v after rfl with ⟨-, none⟩ | ⟨earlier, k', later, rfl, none⟩
      · exact .inr ⟨[], k, before, rfl, none⟩
      · exact .inr ⟨.key k :: earlier, k', later, rfl, none⟩

theorem eachKeyed_value : EachKeyed keyed (.value v :: rest) ↔ keyed = true ∧ EachKeyed false rest := by
  constructor
  · intro each
    refine ⟨?_, ?_⟩
    · rcases each [] v rest rfl with ⟨here, -⟩ | ⟨earlier, k, later, same, -⟩
      · exact here
      · simp at same
    · rintro before w after rfl
      rcases each (.value v :: before) w after rfl with ⟨-, none⟩ | ⟨earlier, k, later, same, none⟩
      · exact absurd List.mem_cons_self (none v)
      · cases earlier with
        | nil => cases (List.cons.inj same).1
        | cons step earlier =>
          obtain ⟨-, rfl⟩ := List.cons.inj same
          exact .inr ⟨earlier, k, later, rfl, none⟩
  · rintro ⟨here, each⟩ before w after same
    cases before with
    | nil => exact .inl ⟨here, fun _ => List.not_mem_nil⟩
    | cons step before =>
      obtain ⟨rfl, rfl⟩ := List.cons.inj same
      rcases each before w after rfl with ⟨absurd, -⟩ | ⟨earlier, k, later, rfl, none⟩
      · cases absurd
      · exact .inr ⟨.value v :: earlier, k, later, rfl, none⟩

theorem faultsOfSteps_eq_nil_iff : faultsOfSteps keyed steps = [] ↔
    (∀ p ∈ steps.map MapStep.data, p.faults = []) ∧ (∀ k, .key k ∈ steps → keyFaults k = []) ∧
      EachKeyed keyed steps := by
  induction steps generalizing keyed with
  | nil => simp [faultsOfSteps, eachKeyed_nil]
  | cons step rest ih =>
    cases step with
    | key k =>
      rw [faultsOfSteps, List.append_eq_nil_iff, List.append_eq_nil_iff, ih, eachKeyed_key]
      simp [MapStep.data, and_assoc, and_left_comm]
    | value v =>
      rw [faultsOfSteps, List.append_eq_nil_iff, List.append_eq_nil_iff, ih, eachKeyed_value]
      cases keyed <;> simp [MapStep.data, and_assoc]

theorem eachKeyed_false_iff : EachKeyed false steps ↔ ∀ before v after, steps = before ++ .value v :: after →
    ∃ earlier k later, before = earlier ++ .key k :: later ∧ ∀ w, .value w ∉ later := by
  simp [EachKeyed]

theorem keyFaults_eq_nil_iff (sound : k.faults = []) : keyFaults k = [] ↔
    (∃ text, k.toValue = .ok (.str text)) ∨ ∃ c, k.toValue = .ok (.char c) := by
  obtain ⟨v, read⟩ := (reports_toValue k).ok_iff.mpr sound
  rw [keyFaults, read]
  cases v <;> simp

end

theorem faultsOfAll_eq_flatMap (items : List Serial) : faultsOfAll items = items.flatMap faults := by
  induction items with
  | nil => rfl
  | cons item rest ih => rw [faultsOfAll, ih, List.flatMap_cons]

theorem faultsOfFields_eq_flatMap (fields : List (String × Serial)) :
    faultsOfFields fields = (fields.map Prod.snd).flatMap faults := by
  induction fields with
  | nil => rfl
  | cons f rest ih => rw [faultsOfFields, ih, List.map_cons, List.flatMap_cons]

theorem faults_eq_nil_iff_parts (s : Serial) :
    s.faults = [] ↔ s.IsBindable ∧ ∀ p ∈ s.parts, p.faults = [] := by
  cases s with
  | unit | scalar | unitVariant => simp [faults, IsBindable, parts]
  | unsupported | failing | tupleVariant | recordVariant => simp [faults, IsBindable]
  | wrapped inner => simp [faults, IsBindable, parts]
  | sequence items => simp [faults, IsBindable, parts, faultsOfAll_eq_flatMap]
  | record fields => simp [faults, IsBindable, parts, faultsOfFields_eq_flatMap]
  | map steps =>
    rw [faults, faultsOfSteps_eq_nil_iff, eachKeyed_false_iff, parts, IsBindable]
    constructor
    · rintro ⟨sound, texts, keyed⟩
      refine ⟨⟨fun k mem => ?_, keyed⟩, sound⟩
      exact (keyFaults_eq_nil_iff (sound k (List.mem_map_of_mem mem))).mp (texts k mem)
    · rintro ⟨⟨texts, keyed⟩, sound⟩
      refine ⟨sound, fun k mem => ?_, keyed⟩
      exact (keyFaults_eq_nil_iff (sound k (List.mem_map_of_mem mem))).mpr (texts k mem)

theorem faults_eq_nil_iff (s : Serial) : s.faults = [] ↔ ∀ x : Serial, x.Within s → x.IsBindable := by
  induction s using induct_parts with
  | step s ih =>
    rw [faults_eq_nil_iff_parts, forall_within_iff]
    exact and_congr_right fun _ => forall₂_congr ih

/-! ### Values -/

mutual

/-- The value that data has by its shape. Nothing is said of the order of the entries of a map. -/
inductive Becomes : Serial → Value → Prop
  | unit : Becomes unit .null
  | scalar (v : Value) : Becomes (scalar v) (scalarValue v)
  | wrapped {inner : Serial} {v : Value} (h : Becomes inner v) : Becomes (wrapped inner) v
  | unitVariant (variant : String) : Becomes (unitVariant variant) (.str variant)
  | sequence {items : List Serial} {vs : List Value} (h : List.Forall₂ Becomes items vs) :
      Becomes (sequence items) (.list vs)
  | map {steps : List MapStep} {given : List (String × Value)} {entries : Table Value}
      (h : Gives steps given) (keeps : entries.Keeps given) : Becomes (map steps) (.map entries)
  | record {fields : List (String × Serial)} {given : List (String × Value)} {entries : Table Value}
      (keys : given.map Prod.fst = fields.map Prod.fst)
      (values : List.Forall₂ Becomes (fields.map Prod.snd) (given.map Prod.snd))
      (keeps : entries.Keeps given) : Becomes (record fields) (.map entries)

/-- The entries that are given in steps. A value goes under the key that is given right before it, so that a key
before another key, or at the end, is lost, and no key serves two values. -/
inductive Gives : List MapStep → List (String × Value) → Prop
  | nil : Gives [] []
  | lost {k : Serial} {v : Value} {text : String} {steps : List MapStep} {given : List (String × Value)}
      (key : Becomes k v) (isText : keyText v = .ok text) (later : Gives steps given) :
      Gives (.key k :: steps) given
  | entry {k data : Serial} {v w : Value} {text : String} {steps : List MapStep}
      {given : List (String × Value)} (key : Becomes k v) (isText : keyText v = .ok text)
      (value : Becomes data w) (later : Gives steps given) :
      Gives (.key k :: .value data :: steps) ((text, w) :: given)

end

theorem forall₂_of_toValues {items : List Serial} {vs : List Value}
    (ih : ∀ p ∈ items, ∀ v, p.toValue = .ok v → p.Becomes v) (h : toValues items = .ok vs) :
    List.Forall₂ Becomes items vs := by
  induction items generalizing vs with
  | nil =>
    obtain rfl := Except.ok.inj h
    exact .nil
  | cons item rest more =>
    obtain ⟨first, others⟩ := List.forall_mem_cons.mp ih
    obtain ⟨v, read, h⟩ := exists_of_bind_eq_ok h
    obtain ⟨ws, later, h⟩ := exists_of_bind_eq_ok h
    obtain rfl := Except.ok.inj h
    exact .cons (first v read) (more others later)

/-- What the steps give from a state on: if there is a key for the next value, as if it came first. -/
def GivesAfter (key? : Option String) (steps : List MapStep) (given : List (String × Value)) : Prop :=
  match key? with
  | none => Gives steps given
  | some text => ∀ k v, Becomes k v → keyText v = .ok text → Gives (.key k :: steps) given

theorem gives_of_addSteps {steps : List MapStep} {entered out : Dictionary Value} {key? : Option String}
    {before : List (String × Value)}
    (ih : ∀ p ∈ steps.map MapStep.data, ∀ v, p.toValue = .ok v → p.Becomes v)
    (keeps : entered.entries.Keeps before) (h : addSteps steps entered key? = .ok out) :
    ∃ given, out.entries.Keeps (before ++ given) ∧ GivesAfter key? steps given := by
  -- A key is not yet an entry when it is read. It is carried to the next step, which makes an entry of it or
  -- loses it.
  induction steps generalizing entered key? before with
  | nil =>
    obtain rfl := Except.ok.inj h
    refine ⟨[], by rwa [List.append_nil], ?_⟩
    cases key? with
    | none => exact .nil
    | some text => exact fun k v key isText => .lost key isText .nil
  | cons step rest more =>
    obtain ⟨first, others⟩ := List.forall_mem_cons.mp ih
    cases step with
    | key k =>
      obtain ⟨v, read, h⟩ := exists_of_bind_eq_ok h
      obtain ⟨text, isText, h⟩ := exists_of_bind_eq_ok h
      obtain ⟨given, keeps, later⟩ := more others keeps h
      have gives := later k v (first v read) isText
      refine ⟨given, keeps, ?_⟩
      cases key? with
      | none => exact gives
      | some text => exact fun k v key isText => .lost key isText gives
    | value data =>
      obtain ⟨w, read, h⟩ := exists_of_bind_eq_ok h
      cases key? with
      | none => cases h
      | some text =>
        obtain ⟨given, keeps, later⟩ := more others (keeps.insert text w) h
        refine ⟨(text, w) :: given, by simpa using keeps, ?_⟩
        exact fun k v key isText => .entry key isText (first w read) later

theorem given_of_addFields {fields : List (String × Serial)} {entered out : Dictionary Value}
    {before : List (String × Value)}
    (ih : ∀ p ∈ fields.map Prod.snd, ∀ v, p.toValue = .ok v → p.Becomes v)
    (keeps : entered.entries.Keeps before) (h : addFields fields entered = .ok out) :
    ∃ given, given.map Prod.fst = fields.map Prod.fst ∧
      List.Forall₂ Becomes (fields.map Prod.snd) (given.map Prod.snd) ∧ out.entries.Keeps (before ++ given) := by
  induction fields generalizing entered before with
  | nil =>
    obtain rfl := Except.ok.inj h
    exact ⟨[], rfl, .nil, by rwa [List.append_nil]⟩
  | cons f rest more =>
    obtain ⟨first, others⟩ := List.forall_mem_cons.mp ih
    obtain ⟨v, read, h⟩ := exists_of_bind_eq_ok h
    obtain ⟨given, keys, values, keeps⟩ := more others (keeps.insert f.1 v) h
    refine ⟨(f.1, v) :: given, congrArg (f.1 :: ·) keys, .cons (first v read) values, ?_⟩
    simpa using keeps

theorem becomes_of_toValue {s : Serial} {v : Value} (h : s.toValue = .ok v) : s.Becomes v := by
  induction s using induct_parts generalizing v with
  | step s ih =>
    cases s with
    | unit =>
      obtain rfl := Except.ok.inj h
      exact .unit
    | scalar w =>
      obtain rfl := Except.ok.inj h
      exact .scalar w
    | unitVariant variant =>
      obtain rfl := Except.ok.inj h
      exact .unitVariant variant
    | unsupported | failing | tupleVariant | recordVariant => cases h
    | wrapped inner => exact .wrapped (ih inner (List.mem_singleton_self inner) h)
    | sequence items =>
      obtain ⟨vs, read, rfl⟩ := exists_of_map_eq_ok h
      exact .sequence (forall₂_of_toValues (fun p mem v => ih p mem) read)
    | map steps =>
      obtain ⟨entries, read, rfl⟩ := exists_of_map_eq_ok h
      obtain ⟨given, keeps, gives⟩ := gives_of_addSteps (fun p mem v => ih p mem) Table.keeps_nil read
      exact .map gives keeps
    | record fields =>
      obtain ⟨entries, read, rfl⟩ := exists_of_map_eq_ok h
      obtain ⟨given, keys, values, keeps⟩ := given_of_addFields (fun p mem v => ih p mem) Table.keeps_nil read
      exact .record keys values keeps

/-- Data becomes a value just if no part of it is one that cannot be bound. The value is the one that its shape
says, and otherwise the error is the first fault in the order in which the data is read. -/
theorem toValue_by_shape (s : Serial) :
    ((∃ v, s.toValue = .ok v) ↔ ∀ x : Serial, x.Within s → x.IsBindable) ∧
      (∀ v, s.toValue = .ok v → s.Becomes v) ∧
        ∀ e, s.toValue = .error e ↔ ∃ fault, s.faults.head? = some fault ∧ e = .serialization fault :=
  ⟨(reports_toValue s).ok_iff.trans (faults_eq_nil_iff s), fun _ => becomes_of_toValue,
    (reports_toValue s).error_iff⟩

/-- A value is read before its key is missed. -/
example : (map [.key (scalar (.str "a")), .value unit, .value (failing "no")]).toValue =
    .error (.serialization (.custom "no")) := rfl

end Serial

end ContentQuery
