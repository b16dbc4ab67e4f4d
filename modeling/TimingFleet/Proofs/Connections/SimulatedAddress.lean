import Mathlib.Data.List.Induction
import TimingFleet.Connections.Transport
import TimingFleet.Proofs.Board.LinkFlags
import TimingFleet.Proofs.EndpointIds.Grammar

/-!
# The addresses of simulated devices

After its scheme an address has a kind and, behind the first question mark, a query: pieces with ampersands between
them.  A piece with an equals sign gives a value to a key.

- `Parts rest kind query`: the text after the scheme has this kind and this query.
- `Gives query key value`: the query gives the key this value, and no other piece of that key comes later.
- `AsksFor query kind wanted`: the kind and the query ask for the device `wanted`.
- `Faulty uri query kind e`: they ask for no device, and `e` says why.

Main statements: `getElem?_parametersOf`, and `device_of_asksFor` and `device_of_faulty`, of which just one applies to
each address (`asksFor_or_faulty`).
-/

namespace TimingFleet

open Text

/-- A numeral of a word: digits, perhaps with a plus sign before them. -/
inductive WordNumeral : List Char → UInt32 → Prop where
  | plain {digits : List Char} {word : UInt32} (h : EndpointIds.Digits digits word) : WordNumeral digits word
  | plus {digits : List Char} {word : UInt32} (h : EndpointIds.Digits digits word) : WordNumeral ('+' :: digits) word

/-- **Numerals are read**, and nothing else is read as a word. -/
theorem readWord_eq_ok_iff {cs : List Char} {word : UInt32} :
    Numeral.readWord 10 cs = .ok word ↔ WordNumeral cs word := by
  constructor
  · intro h
    obtain ⟨digits, hne, hdigits, rfl | rfl⟩ := Numeral.digits_of_readWord h
    · exact .plain ⟨hne, hdigits, (Numeral.readWord_ten_eq_ok_iff hne hdigits).mp h⟩
    · rw [Numeral.readWord_plus hne hdigits] at h
      exact .plus ⟨hne, hdigits, (Numeral.readWord_ten_eq_ok_iff hne hdigits).mp h⟩
  · rintro (⟨hne, hdigits, hvalue⟩ | ⟨hne, hdigits, hvalue⟩)
    · exact (Numeral.readWord_ten_eq_ok_iff hne hdigits).mpr hvalue
    · rw [Numeral.readWord_plus hne hdigits]
      exact (Numeral.readWord_ten_eq_ok_iff hne hdigits).mpr hvalue

namespace SimulatedAddress

variable {kind query key value : List Char} {pieces : List (List Char)}

/-! ## Kinds and queries -/

/-- The text after the scheme is a kind, or a kind, a question mark and a query. -/
inductive Parts : List Char → List Char → List Char → Prop where
  | bare {kind : List Char} (h : '?' ∉ kind) : Parts kind kind []
  | queried {kind query : List Char} (h : '?' ∉ kind) : Parts (kind ++ '?' :: query) kind query

/-- Every text after the scheme is made so. -/
theorem exists_parts (rest : List Char) : ∃ kind query, Parts rest kind query := by
  cases hcut : splitOnce ['?'] rest with
  | none => exact ⟨rest, [], .bare (splitOnce_singleton_eq_none_iff.mp hcut)⟩
  | some parts =>
    obtain ⟨rfl, hkind⟩ := splitOnce_singleton_eq_some_iff.mp hcut
    exact ⟨_, _, .queried hkind⟩

theorem ofUri?_of_parts {text : String} (h : Parts text.toList kind query) :
    ofUri? ("sim://" ++ text) = some ⟨String.ofList kind, parametersOf query⟩ := by
  generalize hrest : text.toList = rest at h
  have hlead : afterLead ['s', 'i', 'm', ':', '/', '/'] ("sim://" ++ text).toList = some rest := by
    simp [afterLead, hrest]
  have hcut : (splitOnce ['?'] rest).getD (rest, []) = (kind, query) := by
    cases h with
    | bare hkind => rw [splitOnce_singleton_eq_none_iff.mpr hkind, Option.getD_none]
    | queried hkind => rw [splitOnce_singleton_eq_some_iff.mpr ⟨rfl, hkind⟩, Option.getD_some]
  simp only [ofUri?, hlead, Option.map_some, hcut]

/-! ## Parameters -/

/-- These are the pieces of the query, with ampersands between them. -/
structure Pieces (query : List Char) (pieces : List (List Char)) : Prop where
  ne_nil : pieces ≠ []
  whole : ∀ piece ∈ pieces, '&' ∉ piece
  joined : join ['&'] pieces = query

theorem pieces_iff : Pieces query pieces ↔ split '&' query = pieces := by
  constructor
  · rintro ⟨hne, hwhole, rfl⟩
    exact split_join hne hwhole
  · rintro rfl
    exact ⟨split_ne_nil _ _, fun _ => sep_not_mem_of_mem_split, join_split _ _⟩

/-- Of the pieces that begin with the key and an equals sign, the last one goes on with the value. -/
def LastGives (pieces : List (List Char)) (key value : List Char) : Prop :=
  ∃ before after, pieces = before ++ (key ++ '=' :: value) :: after ∧
    ∀ piece ∈ after, ∀ other, piece ≠ key ++ '=' :: other

/-- The query gives the key the value. -/
def Gives (query key value : List Char) : Prop := ∃ pieces, Pieces query pieces ∧ LastGives pieces key value

theorem gives_iff : Gives query key value ↔ LastGives (split '&' query) key value :=
  ⟨fun ⟨_, hpieces, h⟩ => pieces_iff.mp hpieces ▸ h, fun h => ⟨_, pieces_iff.mpr rfl, h⟩⟩

theorem lastGives_concat {piece : List Char} :
    LastGives (pieces ++ [piece]) key value ↔
      piece = key ++ '=' :: value ∨ (∀ other, piece ≠ key ++ '=' :: other) ∧ LastGives pieces key value := by
  constructor
  · rintro ⟨before, after, heq, hafter⟩
    rcases List.eq_nil_or_concat after with rfl | ⟨after, last, rfl⟩
    · obtain ⟨-, hlast⟩ := List.append_inj' heq rfl
      exact .inl (List.singleton_inj.mp hlast)
    · rw [List.concat_eq_append] at heq hafter
      have heq' : pieces ++ [piece] = (before ++ (key ++ '=' :: value) :: after) ++ [last] := by simp [heq]
      obtain ⟨rfl, hlast⟩ := List.append_inj' heq' rfl
      obtain rfl := List.singleton_inj.mp hlast
      refine .inr ⟨hafter piece (by simp), before, after, rfl, fun other hother => ?_⟩
      exact hafter other (List.mem_append_left _ hother)
  · rintro (rfl | ⟨hpiece, before, after, rfl, hafter⟩)
    · exact ⟨pieces, [], rfl, fun _ h => absurd h List.not_mem_nil⟩
    · refine ⟨before, after ++ [piece], by simp, fun other hother => ?_⟩
      rcases List.mem_append.mp hother with hother | hother
      · exact hafter other hother
      · obtain rfl := List.mem_singleton.mp hother
        exact hpiece

/-- What one piece does to the parameters before it. -/
def assign (table : NameTable String) (piece : List Char) : NameTable String :=
  match splitOnce ['='] piece with
  | some (key, value) => table.insert (String.ofList key) (String.ofList value)
  | none => table

theorem getElem?_assign (table : NameTable String) (piece : List Char) (hkey : '=' ∉ key) :
    (assign table piece)[String.ofList key]? = some (String.ofList value) ↔
      piece = key ++ '=' :: value ∨
        (∀ other, piece ≠ key ++ '=' :: other) ∧ table[String.ofList key]? = some (String.ofList value) := by
  unfold assign
  cases hcut : splitOnce ['='] piece with
  | none =>
    have hno : ∀ other, piece ≠ key ++ '=' :: other := fun other heq =>
      splitOnce_singleton_eq_none_iff.mp hcut (by simp [heq])
    simp [hno]
  | some parts =>
    obtain ⟨key', value'⟩ := parts
    obtain ⟨rfl, hkey'⟩ := splitOnce_singleton_eq_some_iff.mp hcut
    -- a piece has one key and one value
    have hunique : ∀ other, key' ++ '=' :: value' = key ++ '=' :: other → key' = key ∧ value' = other :=
      fun other heq => (firstMark_singleton.mpr ⟨rfl, hkey'⟩).unique (firstMark_singleton.mpr ⟨heq, hkey⟩)
    rw [Std.ExtTreeMap.getElem?_insert]
    by_cases heq : key' = key
    · subst heq
      have hvalue : String.ofList value' = String.ofList value ↔ value' = value :=
        ⟨fun h => String.ofList_injective h, congrArg _⟩
      simp [hvalue]
    · have hne : ∀ other, key' ++ '=' :: value' ≠ key ++ '=' :: other := fun other h => heq (hunique other h).1
      have hcompare : ¬ compare (String.ofList key') (String.ofList key) = .eq := fun h =>
        heq (String.ofList_injective (Std.LawfulEqCmp.compare_eq_iff_eq.mp h))
      simp [hne, hcompare]

/-- **Parameters**: a key has the value that the query gives it. -/
theorem getElem?_parametersOf (query : List Char) {key value : String} (hkey : '=' ∉ key.toList) :
    (parametersOf query)[key]? = some value ↔ Gives query key.toList value.toList := by
  have hfold : ∀ pieces : List (List Char),
      (pieces.foldl assign ∅)[String.ofList key.toList]? = some (String.ofList value.toList) ↔
        LastGives pieces key.toList value.toList := by
    intro pieces
    induction pieces using List.reverseRecOn with
    | nil => simp [LastGives]
    | append_singleton pieces piece ih =>
      rw [List.foldl_append, lastGives_concat, ← ih]
      exact getElem?_assign _ piece hkey
  rw [gives_iff, ← hfold, String.ofList_toList, String.ofList_toList]
  rfl

theorem getElem?_parametersOf_eq_none_iff (query : List Char) {key : String} (hkey : '=' ∉ key.toList) :
    (parametersOf query)[key]? = none ↔ ∀ value, ¬ Gives query key.toList value := by
  rw [Option.eq_none_iff_forall_ne_some]
  constructor
  · intro h value hgives
    rw [← String.toList_ofList (l := value)] at hgives
    exact h _ ((getElem?_parametersOf query hkey).mpr hgives)
  · exact fun h value hvalue => h _ ((getElem?_parametersOf query hkey).mp hvalue)

/-- The query gives the key the value, or gives it none and the value is `default`. -/
def GivesOr (query key default value : List Char) : Prop :=
  Gives query key value ∨ (∀ other, ¬ Gives query key other) ∧ value = default

theorem exists_givesOr (query key default : List Char) : ∃ value, GivesOr query key default value := by
  by_cases h : ∃ value, Gives query key value
  · obtain ⟨value, h⟩ := h
    exact ⟨value, .inl h⟩
  · exact ⟨default, .inr ⟨not_exists.mp h, rfl⟩⟩

theorem getD_parametersOf {key default value : String} (hkey : '=' ∉ key.toList)
    (h : GivesOr query key.toList default.toList value.toList) : (parametersOf query)[key]?.getD default = value := by
  rcases h with h | ⟨hno, hvalue⟩
  · rw [(getElem?_parametersOf query hkey).mpr h, Option.getD_some]
  · rw [(getElem?_parametersOf_eq_none_iff query hkey).mpr hno, Option.getD_none, String.toList_inj.mp hvalue]

/-! ## Devices -/

/-- A device that can be asked for. -/
inductive Wanted where
  /-- An endpoint device with these endpoints. -/
  | endpoints (ids : List UInt32)
  /-- An overlord whose echoes take so many ticks. -/
  | overlord (ticks : UInt32)
  /-- A fanout with live links on these slots. -/
  | fanout (slots : List UInt32)
  deriving DecidableEq, Repr

/-- The device itself. -/
def Wanted.device (id : String) : Wanted → Device
  | .endpoints ids => .endpoint id ids
  | .overlord ticks => (Device.overlord id).withRoundTrip ticks
  | .fanout slots => (Device.fanout id).withLiveSlots slots

/-- The kind and the query ask for the device. -/
inductive AsksFor (query : List Char) : List Char → Wanted → Prop where
  | endpoints {list : String} {ids : List UInt32} (h : GivesOr query "ids".toList "0".toList list.toList)
      (hids : EndpointIds.parse list = .ok ids) : AsksFor query "endpoint".toList (.endpoints ids)
  | overlord (h : ∀ text, ¬ Gives query "rtt".toList text) : AsksFor query "overlord".toList (.overlord 0x1a4)
  | overlordAfter {text : List Char} {ticks : UInt32} (h : Gives query "rtt".toList text)
      (hticks : WordNumeral text ticks) : AsksFor query "overlord".toList (.overlord ticks)
  | fanout (h : ∀ list, ¬ Gives query "live".toList list) : AsksFor query "fanout".toList (.fanout [0, 1, 2, 3])
  | fanoutOn {list : String} {slots : List UInt32} (h : Gives query "live".toList list.toList)
      (hslots : EndpointIds.parse list = .ok slots) : AsksFor query "fanout".toList (.fanout slots)

/-- The kind and the query ask for no device, for this reason. -/
inductive Faulty (uri : String) (query : List Char) : List Char → Error → Prop where
  | endpoints {list : String} {cause : IdListError} (h : GivesOr query "ids".toList "0".toList list.toList)
      (hids : EndpointIds.parse list = .error cause) : Faulty uri query "endpoint".toList (.idList cause)
  | roundTrip {text : List Char} (h : Gives query "rtt".toList text) (hticks : ∀ ticks, ¬ WordNumeral text ticks) :
      Faulty uri query "overlord".toList (.invalidArgument (uri ++ ": rtt must be an integer"))
  | slots {list : String} {cause : IdListError} (h : Gives query "live".toList list.toList)
      (hslots : EndpointIds.parse list = .error cause) : Faulty uri query "fanout".toList (.idList cause)
  | kind {kind : List Char} (hendpoint : kind ≠ "endpoint".toList) (hoverlord : kind ≠ "overlord".toList)
      (hfanout : kind ≠ "fanout".toList) :
      Faulty uri query kind (.invalidArgument (uri ++ ": unknown simulated board '" ++ String.ofList kind ++ "'"))

theorem asksFor_or_faulty (uri : String) (query kind : List Char) :
    (∃ wanted, AsksFor query kind wanted) ∨ ∃ e, Faulty uri query kind e := by
  by_cases hendpoint : kind = "endpoint".toList
  · subst hendpoint
    obtain ⟨list, h⟩ := exists_givesOr query "ids".toList "0".toList
    rw [← String.toList_ofList (l := list)] at h
    cases hids : EndpointIds.parse (String.ofList list) with
    | ok ids => exact .inl ⟨_, .endpoints h hids⟩
    | error cause => exact .inr ⟨_, .endpoints h hids⟩
  by_cases hoverlord : kind = "overlord".toList
  · subst hoverlord
    by_cases h : ∃ text, Gives query "rtt".toList text
    · obtain ⟨text, h⟩ := h
      by_cases hticks : ∃ ticks, WordNumeral text ticks
      · obtain ⟨ticks, hticks⟩ := hticks
        exact .inl ⟨_, .overlordAfter h hticks⟩
      · exact .inr ⟨_, .roundTrip h (not_exists.mp hticks)⟩
    · exact .inl ⟨_, .overlord (not_exists.mp h)⟩
  by_cases hfanout : kind = "fanout".toList
  · subst hfanout
    by_cases h : ∃ list, Gives query "live".toList list
    · obtain ⟨list, h⟩ := h
      rw [← String.toList_ofList (l := list)] at h
      cases hslots : EndpointIds.parse (String.ofList list) with
      | ok slots => exact .inl ⟨_, .fanoutOn h hslots⟩
      | error cause => exact .inr ⟨_, .slots h hslots⟩
    · exact .inl ⟨_, .fanout (not_exists.mp h)⟩
  exact .inr ⟨_, .kind hendpoint hoverlord hfanout⟩

/-- **What is asked for is made**, with some log lines. -/
theorem device_of_asksFor {wanted : Wanted} (h : AsksFor query kind wanted) (id uri : String) :
    ∃ events, device ⟨String.ofList kind, parametersOf query⟩ id uri = .ok (wanted.device id, events) := by
  cases h with
  | @endpoints list ids h hids =>
    refine ⟨Device.endpointEvents id ids, ?_⟩
    simp only [device, String.ofList_toList, if_true, getD_parametersOf (by decide) h, SimulatedAddress.ids, hids]
    rfl
  | overlord h =>
    refine ⟨[], ?_⟩
    simp only [device, String.ofList_toList, (getElem?_parametersOf_eq_none_iff query (by decide)).mpr h]
    rfl
  | @overlordAfter text ticks h hticks =>
    rw [← String.toList_ofList (l := text)] at h
    refine ⟨[], ?_⟩
    simp only [device, String.ofList_toList, (getElem?_parametersOf query (by decide)).mpr h, String.toList_ofList,
      readWord_eq_ok_iff.mpr hticks]
    rfl
  | fanout h =>
    refine ⟨[], ?_⟩
    simp only [device, String.ofList_toList, (getElem?_parametersOf_eq_none_iff query (by decide)).mpr h,
      Wanted.device, Device.fanout_withLiveSlots]
    rfl
  | fanoutOn h hslots =>
    refine ⟨[], ?_⟩
    simp only [device, String.ofList_toList, (getElem?_parametersOf query (by decide)).mpr h, ids, hslots]
    rfl

/-- **What is wrong is reported**, and no device is made. -/
theorem device_of_faulty {uri : String} {e : Error} (h : Faulty uri query kind e) (id : String) :
    device ⟨String.ofList kind, parametersOf query⟩ id uri = .error e := by
  cases h with
  | endpoints h hids =>
    simp only [device, String.ofList_toList, if_true, getD_parametersOf (by decide) h, ids, hids]
    rfl
  | @roundTrip text h hticks =>
    rw [← String.toList_ofList (l := text)] at h
    have hread : ∃ fault, Numeral.readWord 10 text = .error fault := by
      cases hread : Numeral.readWord 10 text with
      | ok ticks => exact absurd (readWord_eq_ok_iff.mp hread) (hticks ticks)
      | error fault => exact ⟨fault, rfl⟩
    obtain ⟨fault, hread⟩ := hread
    simp only [device, String.ofList_toList, (getElem?_parametersOf query (by decide)).mpr h, String.toList_ofList,
      hread]
    rfl
  | slots h hslots =>
    simp only [device, String.ofList_toList, (getElem?_parametersOf query (by decide)).mpr h, ids, hslots]
    rfl
  | kind hendpoint hoverlord hfanout =>
    have hne : ∀ {name : String}, kind ≠ name.toList → String.ofList kind ≠ name := by
      rintro name hne rfl
      exact hne String.toList_ofList.symm
    simp only [device, if_neg (hne hendpoint), if_neg (hne hoverlord), if_neg (hne hfanout)]

end SimulatedAddress

end TimingFleet
