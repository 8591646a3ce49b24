import Holabrain.Core.FirstSeen
import Holabrain.Core.FirstWins
import Holabrain.Cloud.Overflow

/-!
# Consumption reports

The cloud serves water and energy as two series of dated figures.  A report joins them into one
point per date.  Dates are used as the keys of dictionaries before anything is known of their
type, so it matters which of them Python holds for equal.
-/

namespace Holabrain

namespace Statistics

/-- A hashable value up to Python's equality: booleans and doubles equal the integer that they
are, and the NaN of the decoder, a single object, equals itself. -/
inductive DateKey
  | null
  | number (q : ℚ)
  | infinite (negative : Bool)
  | nan
  | text (s : String)
  deriving DecidableEq

def DateKey.ofDouble : Double → DateKey
  | .finite q => .number q
  | .infinite negative => .infinite negative
  | .nan => .nan

/-- The key a date stands for; lists and objects have no hash. -/
def dateKey : Json → Option DateKey
  | .null => some .null
  | .bool b => some (.number (if b then 1 else 0))
  | .int n => some (.number n)
  | .float (.finite x) => some (.ofDouble (Double.ofRat x.value))
  | .float (.infinite negative) => some (.infinite negative)
  | .float .nan => some .nan
  | .str s => some (.text s)
  | .arr _ | .obj _ => none

/-- `_number`. -/
def number : Json → Except Exn (Option Double)
  | .bool _ => .ok none
  | raw => toFloatOrNone raw

/-- One entry of a series: the date, what it is a key as, and its figure. -/
structure Entry where
  key : DateKey
  date : Json
  value : Option Double

/-- A dictionary keeps the first of several equal keys. -/
abbrev Series := Dict DateKey (Json × Option Double)

/-- `ConsumptionPoint`. -/
structure Point where
  date : String
  energyKwh : Option Double := none
  waterLitres : Option Double := none
  deriving DecidableEq

/-- `ConsumptionReport`. -/
structure Report where
  period : String
  totalEnergyKwh : Option Double := none
  totalWaterLitres : Option Double := none
  points : List Point := []
  deriving DecidableEq

/-- What a comprehension over `raw or []` runs through. -/
def seriesItems (raw : Json) : Except Exn (List Json) :=
  match raw.or (.arr []) with
  | .arr items => .ok items
  | .str s => .ok (s.toList.map fun c => .str (String.singleton c))
  | .obj members => .ok ((Members.toDict members).keys.map Json.str)
  | _ => .error (.builtin "TypeError")

/-- One item of a comprehension: the figure is read before the date is hashed. -/
def readEntry (point : Members) : Except Exn Entry := do
  let value ← number (point.get "value")
  match dateKey (point.get "date") with
  | some key => return { key := key, date := point.get "date", value := value }
  | none => throw (.builtin "TypeError")

def store (series : Series) (entry : Entry) : Series :=
  series.setItem entry.key
    (((series.get? entry.key).map Prod.fst).getD entry.date, entry.value)

/-- One series of a payload, as a dictionary. -/
def readSeries (raw : Json) : Except Exn Series := do
  let items ← seriesItems raw
  let entries ← (items.filterMap Json.asObj).mapM readEntry
  return entries.foldl store Dict.empty

/-- `dict.fromkeys([*energy, *water])`, each key with the date it was built of. -/
def joinedDates (energy water : Series) : Dict DateKey Json :=
  (energy.items ++ water.items).foldl
    (fun dates e => dates.setItem e.1 ((dates.get? e.1).getD e.2.1)) Dict.empty

def point (energy water : Series) (e : DateKey × Json) : Point where
  date := e.2.pyStr
  energyKwh := (energy.get? e.1).bind Prod.snd
  waterLitres := (water.get? e.1).bind Prod.snd

/-- `ConsumptionReport.from_dict`. -/
def fromDict (period : String) (payload : Json) : Except Exn Report :=
  match payload.asObj with
  | none => .ok { period := period }
  | some payload => do
      let energy ← readSeries (payload.get "energyDetail")
      let water ← readSeries (payload.get "waterDetail")
      let totalEnergy ← number (payload.get "totalEnergy")
      let totalWater ← number (payload.get "totalWater")
      return {
        period := period
        totalEnergyKwh := totalEnergy
        totalWaterLitres := totalWater
        points := ((joinedDates energy water).items.filter fun e => e.1 ≠ .null).map
          (point energy water) }

/-! ## What a payload says -/

/-- The number a figure is read as, if it is one. -/
def numeric (raw : Json) : Option Double := (number raw).toOption.join

/-- What one entry says; a date without a hash has no key. -/
def entryOf (point : Members) : Option Entry :=
  (dateKey (point.get "date")).map fun key =>
    { key := key, date := point.get "date", value := numeric (point.get "value") }

/-- The entries of a series that are objects. -/
def objectsOf (raw : Json) : List Members := (raw.asArr.getD []).filterMap Json.asObj

def entriesOf (raw : Json) : List Entry := (objectsOf raw).filterMap entryOf

/-- The date that stands first among equal ones. -/
def firstDate (entries : List Entry) (key : DateKey) : Option Json :=
  entries.findSome? fun e => if e.key = key then some e.date else none

/-- The figure given last for a date, if it is a number. -/
def lastValue (entries : List Entry) (key : DateKey) : Option Double :=
  (entries.reverse.findSome? fun e => if e.key = key then some e.value else none).join

/-- The point of a date in the outer join of two series. -/
def joined (energy water : List Entry) (key : DateKey) : Point where
  date := ((firstDate (energy ++ water) key).getD .null).pyStr
  energyKwh := lastValue energy key
  waterLitres := lastValue water key

/-- The dates of both series but the null one, in the order in which they appear first. -/
def datesOf (energy water : List Entry) : List DateKey :=
  ((energy ++ water).map Entry.key).eraseDups.filter (· ≠ .null)

/-- The points are the full outer join of the series, one for each of `keys`. -/
structure IsJoin (energy water : List Entry) (keys : List DateKey) (points : List Point) :
    Prop where
  once : keys.Nodup
  complete : ∀ key, key ∈ keys ↔ key ≠ .null ∧ ∃ entry ∈ energy ++ water, entry.key = key
  ordered : keys = datesOf energy water
  points_eq : points = keys.map (joined energy water)

theorem isJoin (energy water : List Entry) : IsJoin energy water (datesOf energy water)
    ((datesOf energy water).map (joined energy water)) where
  once := (nodup_eraseDups _).filter _
  complete key := by
    rw [datesOf, List.mem_filter, List.mem_eraseDups, List.mem_map, decide_eq_true_iff, and_comm]
  ordered := rfl
  points_eq := rfl

section Store

variable {entries : List Entry} {key : DateKey}

theorem keys_foldl_store : (entries.foldl store Dict.empty).keys =
    (entries.map Entry.key).eraseDups :=
  Dict.keys_foldl_setItem Entry.key
    (fun series entry => (((series.get? entry.key).map Prod.fst).getD entry.date, entry.value))
    entries

theorem get?_store (series : Series) (entry : Entry) : (store series entry).get? key =
    if key = entry.key then
      some (((series.get? entry.key).map Prod.fst).getD entry.date, entry.value)
    else series.get? key := Dict.get?_setItem _ _ _ _

theorem date_foldl_store :
    ((entries.foldl store Dict.empty).get? key).map Prod.fst = firstDate entries key := by
  have hstep : ∀ (series : Series) (entry : Entry),
      ((store series entry).get? key).map Prod.fst = ((series.get? key).map Prod.fst).or
        (if entry.key = key then some entry.date else none) := by
    intro series entry
    rw [get?_store]
    by_cases hkey : key = entry.key
    · rw [if_pos hkey, if_pos hkey.symm, hkey]
      cases series.get? entry.key <;> rfl
    · rw [if_neg hkey, if_neg (Ne.symm hkey), Option.or_none]
  rw [foldl_firstWins (fun series : Series => (series.get? key).map Prod.fst) hstep,
    Dict.get?_empty, Option.map_none, Option.none_or, firstDate]

theorem value_foldl_store :
    ((entries.foldl store Dict.empty).get? key).bind Prod.snd = lastValue entries key := by
  have hstep : ∀ (series : Series) (entry : Entry),
      ((store series entry).get? key).map Prod.snd =
        (if entry.key = key then some entry.value else none).or
          ((series.get? key).map Prod.snd) := by
    intro series entry
    rw [get?_store]
    by_cases hkey : key = entry.key
    · rw [if_pos hkey, if_pos hkey.symm, Option.map_some, Option.some_or]
    · rw [if_neg hkey, if_neg (Ne.symm hkey), Option.none_or]
  have hlast := foldl_lastWins (fun series : Series => (series.get? key).map Prod.snd) hstep
    Dict.empty entries
  rw [Dict.get?_empty, Option.map_none, Option.or_none] at hlast
  rw [lastValue, ← hlast]
  cases (entries.foldl store Dict.empty).get? key <;> rfl

end Store

/-! ## The join -/

section Join

variable {energy water : List Entry} {key : DateKey}

/-- Among the items of a dictionary a key is found once. -/
theorem findSome?_items (series : Series) (key : DateKey) :
    (series.items.findSome? fun e => if e.1 = key then some e.2.1 else none) =
      (series.get? key).map Prod.fst := by
  have hmem : ∀ e ∈ series.items, ∀ date, (if e.1 = key then some e.2.1 else none) = some date →
      (series.get? key).map Prod.fst = some date := by
    intro e he date hdate
    split at hdate
    next hkey =>
      have hget : series.get? key = some e.2 := by
        rw [← hkey]
        exact Dict.mem_items.mp he
      rw [hget]
      exact hdate
    next => cases hdate
  cases hfound : series.items.findSome? fun e => if e.1 = key then some e.2.1 else none with
  | some date =>
      obtain ⟨e, he, hdate⟩ := List.exists_of_findSome?_eq_some hfound
      exact (hmem e he date hdate).symm
  | none =>
      rw [List.findSome?_eq_none_iff] at hfound
      cases hget : series.get? key with
      | none => rfl
      | some value =>
          have hnone := hfound (key, value) (Dict.mem_items.mpr hget)
          rw [if_pos rfl] at hnone
          cases hnone

theorem get?_joinedDates (first second : Series) (key : DateKey) :
    (joinedDates first second).get? key =
      ((first.get? key).map Prod.fst).or ((second.get? key).map Prod.fst) := by
  have hstep : ∀ (dates : Dict DateKey Json) (e : DateKey × Json × Option Double),
      (dates.setItem e.1 ((dates.get? e.1).getD e.2.1)).get? key = (dates.get? key).or
        (if e.1 = key then some e.2.1 else none) := by
    intro dates e
    rw [Dict.get?_setItem]
    by_cases hkey : key = e.1
    · rw [if_pos hkey, if_pos hkey.symm, hkey]
      cases dates.get? e.1 <;> rfl
    · rw [if_neg hkey, if_neg (Ne.symm hkey), Option.or_none]
  rw [joinedDates, foldl_firstWins (fun dates : Dict DateKey Json => dates.get? key) hstep,
    Dict.get?_empty, Option.none_or, List.findSome?_append, findSome?_items, findSome?_items]

theorem keys_joinedDates (first second : Series) :
    (joinedDates first second).keys = (first.keys ++ second.keys).eraseDups := by
  have hkeys := Dict.keys_foldl_setItem Prod.fst
    (fun (dates : Dict DateKey Json) (e : DateKey × Json × Option Double) =>
      (dates.get? e.1).getD e.2.1) (first.items ++ second.items)
  rw [joinedDates, hkeys, List.map_append, Dict.map_fst_items, Dict.map_fst_items]

/-- The two dictionaries are joined as the two series are. -/
theorem points_eq : (((joinedDates (energy.foldl store Dict.empty)
      (water.foldl store Dict.empty)).items.filter fun e => e.1 ≠ .null).map
        (point (energy.foldl store Dict.empty) (water.foldl store Dict.empty))) =
      (datesOf energy water).map (joined energy water) := by
  have hdates : datesOf energy water = ((joinedDates (energy.foldl store Dict.empty)
      (water.foldl store Dict.empty)).items.map Prod.fst).filter (· ≠ .null) := by
    rw [Dict.map_fst_items, keys_joinedDates, keys_foldl_store, keys_foldl_store,
      eraseDups_eraseDups_append, eraseDups_append_eraseDups, ← List.map_append, datesOf]
  rw [hdates, List.filter_map, List.map_map]
  apply List.map_congr_left
  intro e he
  have hget := Dict.mem_items.mp (List.mem_filter.mp he).1
  rw [get?_joinedDates, date_foldl_store, date_foldl_store] at hget
  have hdate : firstDate (energy ++ water) e.1 = some e.2 := by
    rw [firstDate, List.findSome?_append]
    exact hget
  rw [point, value_foldl_store, value_foldl_store, Function.comp_apply, joined, hdate,
    Option.getD_some]

end Join

/-! ## Reading the series -/

/-- A list or an object. -/
def isContainer : Json → Bool
  | .arr _ | .obj _ => true
  | _ => false

/-- What a loop can run through. -/
def isIterable : Json → Bool
  | .str _ => true
  | raw => isContainer raw

/-- An entry that can be read: its date has a hash, and its figure a double. -/
def EntryReads (point : Members) : Prop :=
  isContainer (point.get "date") = false ∧ ¬ IsHuge (point.get "value")

/-- A series that can be read. -/
def SeriesReads (raw : Json) : Prop :=
  (raw.truthy = true → isIterable raw = true) ∧ ∀ point ∈ objectsOf raw, EntryReads point

/-- A payload that can be read, if it is an object at all. -/
def PayloadReads (payload : Json) : Prop :=
  ∀ members, payload.asObj = some members →
    SeriesReads (members.get "energyDetail") ∧ SeriesReads (members.get "waterDetail") ∧
      ¬ IsHuge (members.get "totalEnergy") ∧ ¬ IsHuge (members.get "totalWater")

section Reading

theorem dateKey_eq_none_iff (date : Json) : dateKey date = none ↔ isContainer date = true := by
  cases date with
  | float x => cases x <;> simp [dateKey, isContainer]
  | _ => simp [dateKey, isContainer]

theorem returns_number_iff (raw : Json) : Returns (number raw) ↔ ¬ IsHuge raw := by
  cases raw with
  | bool b => simp [number, IsHuge]
  | _ => simp only [number, returns_toFloatOrNone_iff]

theorem number_eq_ok {raw : Json} (h : ¬ IsHuge raw) : number raw = .ok (numeric raw) := by
  obtain ⟨value, hvalue⟩ := (returns_number_iff raw).mpr h
  rw [numeric, hvalue]
  rfl

theorem readEntry_eq_ok_iff (point : Members) (entry : Entry) :
    readEntry point = .ok entry ↔ EntryReads point ∧ entryOf point = some entry := by
  rw [readEntry, EntryReads, entryOf]
  by_cases hhuge : IsHuge (point.get "value")
  · cases hnumber : number (point.get "value") with
    | ok value => exact absurd hhuge ((returns_number_iff _).mp ⟨value, hnumber⟩)
    | error exn => exact iff_of_false (fun h => by cases h) (fun h => h.1.2 hhuge)
  · rw [number_eq_ok hhuge]
    cases hkey : dateKey (point.get "date") with
    | none =>
        have hdate := (dateKey_eq_none_iff _).mp hkey
        exact iff_of_false (fun h => by cases h) (fun h => by rw [hdate] at h; cases h.1.1)
    | some key =>
        have hdate : isContainer (point.get "date") = false := by
          rw [Bool.eq_false_iff, Ne, ← dateKey_eq_none_iff, hkey]
          exact Option.some_ne_none key
        rw [Option.map_some, Option.some.injEq]
        constructor
        · intro h
          exact ⟨⟨hdate, hhuge⟩, Except.ok.inj h⟩
        · intro h
          exact congrArg Except.ok h.2

theorem exists_readEntry {point : Members} (h : EntryReads point) :
    ∃ entry, readEntry point = .ok entry := by
  cases hkey : entryOf point with
  | none =>
      rw [entryOf, Option.map_eq_none_iff, dateKey_eq_none_iff, h.1] at hkey
      cases hkey
  | some entry => exact ⟨entry, (readEntry_eq_ok_iff point entry).mpr ⟨h, hkey⟩⟩

/-- The first entry that cannot be read loses the series. -/
theorem mapM_readEntry_eq_ok_iff (points : List Members) (entries : List Entry) :
    points.mapM readEntry = .ok entries ↔
      (∀ point ∈ points, EntryReads point) ∧ points.filterMap entryOf = entries := by
  induction points generalizing entries with
  | nil => simp [pure, Except.pure]
  | cons point rest ih =>
      rw [List.mapM_cons, List.forall_mem_cons]
      cases hentry : readEntry point with
      | error exn =>
          apply iff_of_false
          · intro h
            cases h
          · rintro ⟨⟨hpoint, -⟩, -⟩
            obtain ⟨entry, hread⟩ := exists_readEntry hpoint
            rw [hentry] at hread
            cases hread
      | ok entry =>
          obtain ⟨hpoint, hkey⟩ := (readEntry_eq_ok_iff point entry).mp hentry
          rw [List.filterMap_cons_some hkey]
          cases hrest : rest.mapM readEntry with
          | error exn =>
              apply iff_of_false
              · intro h
                cases h
              · rintro ⟨⟨-, hreads⟩, -⟩
                have hread := (ih _).mpr ⟨hreads, rfl⟩
                rw [hrest] at hread
                cases hread
          | ok others =>
              obtain ⟨hreads, hothers⟩ := (ih others).mp hrest
              rw [hothers]
              constructor
              · intro h
                exact ⟨⟨hpoint, hreads⟩, Except.ok.inj h⟩
              · intro h
                exact congrArg Except.ok h.2

/-- Nothing but a list holds objects, and only a true value is run through. -/
theorem seriesItems_cases (raw : Json) :
    (raw.truthy = true ∧ isIterable raw = false ∧ seriesItems raw = .error (.builtin "TypeError")) ∨
      (raw.truthy = true → isIterable raw = true) ∧
        ∃ items, seriesItems raw = .ok items ∧ items.filterMap Json.asObj = objectsOf raw := by
  rw [seriesItems, Json.or]
  by_cases htrue : raw.truthy = true
  · rw [if_pos htrue]
    cases raw with
    | null => cases htrue
    | bool b => exact .inl ⟨htrue, rfl, rfl⟩
    | int n => exact .inl ⟨htrue, rfl, rfl⟩
    | float x => exact .inl ⟨htrue, rfl, rfl⟩
    | str s =>
        refine .inr ⟨fun _ => rfl, _, rfl, ?_⟩
        rw [List.filterMap_map]
        exact List.filterMap_eq_nil_iff.mpr fun c _ => rfl
    | obj members =>
        refine .inr ⟨fun _ => rfl, _, rfl, ?_⟩
        rw [List.filterMap_map]
        exact List.filterMap_eq_nil_iff.mpr fun key _ => rfl
    | arr items => exact .inr ⟨fun _ => rfl, items, rfl, rfl⟩
  · rw [if_neg htrue]
    refine .inr ⟨fun h => absurd h htrue, [], rfl, ?_⟩
    cases raw with
    | arr items =>
        have hempty : items = [] := by simpa [Json.truthy] using htrue
        rw [hempty]
        rfl
    | _ => rfl

theorem readSeries_eq_ok_iff (raw : Json) (series : Series) : readSeries raw = .ok series ↔
    SeriesReads raw ∧ (entriesOf raw).foldl store Dict.empty = series := by
  rw [readSeries, SeriesReads, entriesOf]
  obtain ⟨htrue, hiterable, hitems⟩ | ⟨hiterable, items, hitems, hobjects⟩ := seriesItems_cases raw
  · rw [hitems]
    apply iff_of_false
    · intro h
      cases h
    · rintro ⟨⟨h, -⟩, -⟩
      rw [h htrue] at hiterable
      cases hiterable
  · rw [hitems, ← hobjects]
    cases hentries : (items.filterMap Json.asObj).mapM readEntry with
    | error exn =>
        apply iff_of_false
        · intro h
          simp only [bind, Except.bind, hentries] at h
          cases h
        · rintro ⟨⟨-, hreads⟩, -⟩
          have hread := (mapM_readEntry_eq_ok_iff _ _).mpr ⟨hreads, rfl⟩
          rw [hentries] at hread
          cases hread
    | ok entries =>
        obtain ⟨hreads, hentriesOf⟩ := (mapM_readEntry_eq_ok_iff _ _).mp hentries
        rw [hentriesOf]
        simp only [bind, Except.bind, hentries, pure, Except.pure, Except.ok.injEq]
        exact (and_iff_right ⟨hiterable, hreads⟩).symm

/-- A payload that can be read is read into the join of its series. -/
theorem fromDict_obj {period : String} {members : Members} {report : Report}
    (h : fromDict period (.obj members) = .ok report) :
    PayloadReads (.obj members) ∧
      report.points = (datesOf (entriesOf (members.get "energyDetail"))
        (entriesOf (members.get "waterDetail"))).map
          (joined (entriesOf (members.get "energyDetail"))
            (entriesOf (members.get "waterDetail"))) := by
  have hobj : (Json.obj members).asObj = some members := rfl
  simp only [fromDict, hobj, bind, Except.bind] at h
  cases henergy : readSeries (members.get "energyDetail") with
  | error exn => rw [henergy] at h; cases h
  | ok energy =>
  cases hwater : readSeries (members.get "waterDetail") with
  | error exn => rw [henergy, hwater] at h; cases h
  | ok water =>
  cases htotal : number (members.get "totalEnergy") with
  | error exn => rw [henergy, hwater, htotal] at h; cases h
  | ok totalEnergy =>
  cases htotal' : number (members.get "totalWater") with
  | error exn => rw [henergy, hwater, htotal, htotal'] at h; cases h
  | ok totalWater =>
  rw [henergy, hwater, htotal, htotal'] at h
  obtain ⟨hreads, rfl⟩ := (readSeries_eq_ok_iff _ _).mp henergy
  obtain ⟨hreads', rfl⟩ := (readSeries_eq_ok_iff _ _).mp hwater
  have hreport := Except.ok.inj h
  constructor
  · intro payload hpayload
    obtain rfl := Option.some.inj hpayload
    exact ⟨hreads, hreads', (returns_number_iff _).mp ⟨_, htotal⟩,
      (returns_number_iff _).mp ⟨_, htotal'⟩⟩
  · rw [← points_eq, ← hreport]

theorem exists_fromDict (period : String) {members : Members}
    (h : PayloadReads (.obj members)) : ∃ report, fromDict period (.obj members) = .ok report := by
  have hobj : (Json.obj members).asObj = some members := rfl
  obtain ⟨hreads, hreads', htotal, htotal'⟩ := h members hobj
  simp only [fromDict, hobj, bind, Except.bind, (readSeries_eq_ok_iff _ _).mpr ⟨hreads, rfl⟩,
    (readSeries_eq_ok_iff _ _).mpr ⟨hreads', rfl⟩, number_eq_ok htotal, number_eq_ok htotal']
  exact ⟨_, rfl⟩

end Reading

/-- The entries of one of the series of a payload. -/
def seriesOf (payload : Json) (name : String) : List Entry :=
  entriesOf (Members.get (payload.asObj.getD []) name)

/-- A report is the join of its series exactly if the payload can be read. -/
theorem fromDict_joins_iff (period : String) (payload : Json) :
    (∃ report keys, fromDict period payload = .ok report ∧
      IsJoin (seriesOf payload "energyDetail") (seriesOf payload "waterDetail") keys
        report.points) ↔ PayloadReads payload := by
  cases hpayload : payload.asObj with
  | none =>
      refine iff_of_true ?_ ?_
      · have hempty : ∀ name, seriesOf payload name = [] := by
          intro name
          rw [seriesOf, hpayload]
          rfl
        rw [hempty, hempty]
        have hreport : fromDict period payload = .ok { period := period } := by
          rw [fromDict, hpayload]
        exact ⟨_, _, hreport, isJoin [] []⟩
      · intro members hmembers
        rw [hpayload] at hmembers
        cases hmembers
  | some members =>
      have hobj : payload = .obj members := by
        cases payload with
        | obj other =>
            cases hpayload
            rfl
        | _ => cases hpayload
      subst hobj
      constructor
      · rintro ⟨report, keys, hreport, -⟩
        exact (fromDict_obj hreport).1
      · intro hreads
        obtain ⟨report, hreport⟩ := exists_fromDict period hreads
        have hjoin := isJoin (entriesOf (members.get "energyDetail"))
          (entriesOf (members.get "waterDetail"))
        rw [← (fromDict_obj hreport).2] at hjoin
        exact ⟨report, _, hreport, hjoin⟩

/-- A series that is a bare number. -/
theorem fromDict_raises_bare_number : ¬ ∃ report keys,
    fromDict "month" (.obj [("energyDetail", .int 5)]) = .ok report ∧
      IsJoin (seriesOf (.obj [("energyDetail", .int 5)]) "energyDetail")
        (seriesOf (.obj [("energyDetail", .int 5)]) "waterDetail") keys report.points := by
  rintro ⟨report, keys, hreport, -⟩
  have hraised : fromDict "month" (.obj [("energyDetail", .int 5)]) =
      .error (.builtin "TypeError") := by rfl
  rw [hraised] at hreport
  cases hreport

end Statistics

end Holabrain
