import TimingFleet.Proofs.Register.EndpointNode
import TimingFleet.Proofs.Text.Grid
import TimingFleet.Report

/-!
# The status table

A table of a snapshot has the endpoints' ids for headings, so each cell is found under the decimal id of its
endpoint (`cellsUnder_snapshotRow`), in the row with its label (`cellsAt_rows`).

The status table takes its rows from the endpoint with the lowest id alone: a flag that it reports is shown for every
endpoint, and a flag that only other endpoints report is shown for none.
-/

namespace TimingFleet.Report

open Text Grid

variable {s : Snapshot} {id : UInt32} {e : EndpointSnapshot} {label flag : String} {cell : EndpointSnapshot → String}

/-! ## Rows of a snapshot -/

/-- An entry is the only one of a list under its key. -/
theorem filter_key_eq_singleton {α β : Type} [DecidableEq α] {entries : List (α × β)} {k : α} {v : β}
    (hkeys : entries.Pairwise fun x y => x.1 ≠ y.1) (h : (k, v) ∈ entries) :
    (entries.filter fun entry => entry.1 = k) = [(k, v)] := by
  obtain ⟨before, after, rfl⟩ := List.append_of_mem h
  obtain ⟨-, hafter, hbefore⟩ := List.pairwise_append.mp hkeys
  have hb : (before.filter fun entry => entry.1 = k) = [] :=
    List.filter_eq_nil_iff.mpr fun x hx => by simpa using hbefore x hx (k, v) List.mem_cons_self
  have ha : (after.filter fun entry => entry.1 = k) = [] :=
    List.filter_eq_nil_iff.mpr fun x hx => by simpa using ((List.pairwise_cons.mp hafter).1 x hx).symm
  rw [List.filter_append, hb, List.nil_append, List.filter_cons_of_pos (by simp), ha]

/-- The values of a table stand in the order of its entries. -/
theorem values_eq_map_toList {β : Type} (t : IndexTable β) : t.values = t.toList.map Prod.snd := by
  obtain ⟨⟨tree⟩⟩ := t
  induction tree using Quotient.ind with
  | _ tree =>
    show tree.inner.values = (Std.DTreeMap.Internal.Impl.Const.toList tree.inner).map Prod.snd
    rw [Std.DTreeMap.Internal.Impl.Const.toList_eq_toListModel_map, Std.DTreeMap.Internal.Impl.values,
      Std.DTreeMap.Internal.Impl.foldr_eq_foldr, List.map_map]
    induction tree.inner.toListModel with
    | nil => rfl
    | cons entry entries ih =>
      rw [List.foldr_cons, List.map_cons, ih]
      rfl

theorem mem_entries : (id, e) ∈ s.toList ↔ s[id]? = some e := Std.ExtTreeMap.mem_toList_iff_getElem?_eq_some

theorem ascending_entries (s : Snapshot) : s.toList.Pairwise fun x y => x.1 < y.1 :=
  Std.ExtTreeMap.ordered_keys_toList.imp Std.compare_eq_lt.mp

theorem decimalWord_injective {m n : UInt32} (h : decimalWord m = decimalWord n) : m = n :=
  UInt32.toNat_inj.mp (Numeral.decimal_injective h)

/-- The heading of the labels is no number. -/
theorem decimalWord_ne_endpoint (id : UInt32) : decimalWord id ≠ "Endpoint" := by
  intro h
  have hmem : 'E' ∈ Nat.toDigits 10 id.toNat := by
    have hlist : Nat.toDigits 10 id.toNat = "Endpoint".toList := by
      rw [← h, decimalWord, Numeral.decimal, String.toList_ofList]
    rw [hlist]
    decide
  exact absurd (Nat.isDigit_of_mem_toDigits (by decide) (by decide) hmem) (by decide)

theorem headingRow_eq (s : Snapshot) : headingRow s = "Endpoint" :: s.toList.map fun entry => decimalWord entry.1 := by
  have hkeys : s.keys = s.toList.map Prod.fst := Std.ExtTreeMap.map_fst_toList_eq_keys.symm
  rw [headingRow, hkeys, List.map_map]
  rfl

theorem snapshotRow_eq (s : Snapshot) (label : String) (cell : EndpointSnapshot → String) :
    snapshotRow s label cell = label :: s.toList.map fun entry => cell entry.2 := by
  rw [snapshotRow, values_eq_map_toList, List.map_map]
  rfl

theorem length_headingRow (s : Snapshot) : (headingRow s).length = s.size + 1 := by
  rw [headingRow_eq, List.length_cons, List.length_map, Std.ExtTreeMap.length_toList]

theorem length_snapshotRow (s : Snapshot) (label : String) (cell : EndpointSnapshot → String) :
    (snapshotRow s label cell).length = s.size + 1 := by
  rw [snapshotRow_eq, List.length_cons, List.length_map, Std.ExtTreeMap.length_toList]

/-- The headings beside the cells of a row: the entries of the snapshot, in order. -/
theorem zip_headingRow (s : Snapshot) (label : String) (cell : EndpointSnapshot → String) :
    (headingRow s).zip (snapshotRow s label cell) =
      ("Endpoint", label) :: s.toList.map fun entry => (decimalWord entry.1, cell entry.2) := by
  rw [headingRow_eq, snapshotRow_eq, List.zip_cons_cons, List.zip_map']

/-- **Each endpoint has one cell in a row**, under its own id. -/
theorem cellsUnder_snapshotRow (he : s[id]? = some e) (label : String) (cell : EndpointSnapshot → String) :
    cellsUnder (decimalWord id) (headingRow s) (snapshotRow s label cell) = [cell e] := by
  have hsame : ∀ entry : UInt32 × EndpointSnapshot,
      decide (decimalWord entry.1 = decimalWord id) = decide (entry.1 = id) :=
    fun entry => decide_eq_decide.mpr ⟨decimalWord_injective, congrArg decimalWord⟩
  have hone := filter_key_eq_singleton ((ascending_entries s).imp UInt32.ne_of_lt) (mem_entries.mpr he)
  rw [cellsUnder, zip_headingRow, List.filter_cons_of_neg (by simpa using (decimalWord_ne_endpoint id).symm),
    List.filter_map]
  simp only [Function.comp_def, hsame, hone, List.map_cons, List.map_nil]

/-- **A row of its own for each key**: under its label stands one cell, if the key has a row at all. -/
theorem cellsAt_rows {α : Type} [BEq α] [LawfulBEq α] {keys : List α} {label : α → String}
    {cell : α → EndpointSnapshot → String} (hlabel : ∀ {a b}, label a = label b → a = b) (hkeys : keys.Nodup)
    (he : s[id]? = some e) (key : α) :
    cellsAt (label key) (decimalWord id) (headingRow s :: keys.map fun a => snapshotRow s (label a) (cell a)) =
      if key ∈ keys then [cell key e] else [] := by
  have hfirst : ∀ a, decide ((snapshotRow s (label a) (cell a)).head? = some (label key)) = (a == key) := by
    intro a
    rw [Bool.eq_iff_iff, decide_eq_true_iff, beq_iff_eq]
    exact ⟨fun h => hlabel (Option.some.inj h), fun h => h ▸ rfl⟩
  rw [cellsAt, List.filter_map]
  simp only [Function.comp_def, hfirst, List.filter_beq, hkeys.count]
  split
  · simp [cellsUnder_snapshotRow he]
  · rfl

/-! ## Flags -/

/-- The cell of an endpoint in the row of a flag. -/
def flagCell (flag : String) (e : EndpointSnapshot) : String := (e.status[flag]?.map hexWord).getD noValue

/-- The endpoint with the lowest id reports the flag. -/
def LowestReports (s : Snapshot) (flag : String) : Prop :=
  ∃ id e, s[id]? = some e ∧ (∀ id' ∈ s, id ≤ id') ∧ flag ∈ e.status

theorem mem_statusNames : flag ∈ statusNames s ↔ LowestReports s flag := by
  have horder := ascending_entries s
  cases hentries : s.toList with
  | nil =>
    have hnames : statusNames s = [] := by rw [statusNames, values_eq_map_toList, hentries]; rfl
    rw [hnames]
    refine ⟨fun h => absurd h List.not_mem_nil, fun ⟨id, e, he, _⟩ => ?_⟩
    exact absurd (hentries ▸ mem_entries.mpr he) List.not_mem_nil
  | cons first rest =>
    obtain ⟨id, e⟩ := first
    have hnames : statusNames s = e.status.keys := by rw [statusNames, values_eq_map_toList, hentries]; rfl
    have he : s[id]? = some e := mem_entries.mp (hentries ▸ List.mem_cons_self)
    rw [hentries] at horder
    have hlowest : ∀ id' ∈ s, id ≤ id' := by
      intro id' hid'
      obtain ⟨e', he'⟩ := Option.isSome_iff_exists.mp (Std.ExtTreeMap.isSome_getElem?_iff_mem.mpr hid')
      rcases List.mem_cons.mp (hentries ▸ mem_entries.mpr he') with heq | hrest
      · exact UInt32.le_of_eq (Prod.mk.inj heq).1.symm
      · exact UInt32.le_of_lt ((List.pairwise_cons.mp horder).1 _ hrest)
    rw [hnames, Std.ExtTreeMap.mem_keys]
    refine ⟨fun h => ⟨id, e, he, hlowest, h⟩, fun ⟨id', e', he', hleast, h⟩ => ?_⟩
    have hid : id' = id := UInt32.le_antisymm (hleast id (Std.ExtTreeMap.isSome_getElem?_iff_mem.mp (by rw [he]; rfl)))
      (hlowest id' (Std.ExtTreeMap.isSome_getElem?_iff_mem.mp (by rw [he']; rfl)))
    rw [hid, he] at he'
    exact Option.some.inj he' ▸ h

theorem nodup_statusNames (s : Snapshot) : (statusNames s).Nodup := by
  unfold statusNames
  split
  · exact List.nodup_nil
  · exact Std.ExtTreeMap.nodup_keys

/-- A flag has one row if the lowest endpoint reports it, and otherwise none. -/
theorem cellsAt_statusRows (he : s[id]? = some e) (flag : String) :
    cellsAt flag (decimalWord id) (statusRows s) = if flag ∈ statusNames s then [flagCell flag e] else [] := by
  have hsame : ∀ {name name' : String}, name = name' → name = name' := fun h => h
  exact cellsAt_rows hsame (nodup_statusNames s) he flag

/-- Each flag that some endpoint reports has one cell for every endpoint: the flag's value there, or a dash. -/
def ShowsEveryFlag (s : Snapshot) (grid : Grid) : Prop :=
  ∀ flag, (∃ (id : UInt32) (e : EndpointSnapshot), s[id]? = some e ∧ flag ∈ e.status) →
    ∀ (id : UInt32) (e : EndpointSnapshot), s[id]? = some e → cellsAt flag (decimalWord id) grid = [flagCell flag e]

/-- **The status table** draws each of its rows.  It has one row for each flag of the endpoint with the lowest id, with
one cell for every endpoint, and no other rows; so it shows every flag just if no endpoint reports a flag that this one
does not. -/
theorem statusFlags_account (s : Snapshot) :
    statusFlags s = String.ofList (join ['\n'] (statusRows s).drawLines) ∧
      (∀ row ∈ statusRows s, (statusRows s).Draws row) ∧
      (∀ (id : UInt32) (e : EndpointSnapshot) (flag : String), s[id]? = some e →
        (LowestReports s flag → cellsAt flag (decimalWord id) (statusRows s) = [flagCell flag e]) ∧
          (¬LowestReports s flag → cellsAt flag (decimalWord id) (statusRows s) = [])) ∧
      (ShowsEveryFlag s (statusRows s) ↔
        ∀ (id : UInt32) (e : EndpointSnapshot) (flag : String), s[id]? = some e → flag ∈ e.status →
          LowestReports s flag) := by
  refine ⟨rfl, fun row hrow => draws hrow, fun id e flag he => ⟨fun h => ?_, fun h => ?_⟩,
    fun h id e flag he hflag => ?_, ?_⟩
  · rw [cellsAt_statusRows he, if_pos (mem_statusNames.mpr h)]
  · rw [cellsAt_statusRows he, if_neg (mt mem_statusNames.mp h)]
  · by_contra hnone
    have hcells := h flag ⟨id, e, he, hflag⟩ id e he
    rw [cellsAt_statusRows he, if_neg (mt mem_statusNames.mp hnone)] at hcells
    exact List.cons_ne_nil _ _ hcells.symm
  · rintro h flag ⟨id', e', he', hflag⟩ id e he
    rw [cellsAt_statusRows he, if_pos (mem_statusNames.mpr (h id' e' flag he' hflag))]

/-- Two endpoints, of which the second reports a flag that the first does not have. -/
def raggedSnapshot : Snapshot :=
  .ofList [(0, ⟨0, 0, 0, ∅, .ofList [("ep_rdy", 1)] compare, []⟩),
    (1, ⟨0, 0, 0, ∅, .ofList [("ep_rdy", 1), ("in_run", 1)] compare, []⟩)] compare

/-- The flag `in_run` of the second endpoint appears nowhere. -/
theorem raggedSnapshot_hides_flag :
    ¬ShowsEveryFlag raggedSnapshot (statusRows raggedSnapshot) ∧
      raggedSnapshot[(1 : UInt32)]?.bind (fun e => e.status["in_run"]?) = some 1 ∧
      statusFlags raggedSnapshot = "\n".intercalate
        ["╭──────────┬─────┬─────╮",
          "│ Endpoint │ 0   │ 1   │",
          "├──────────┼─────┼─────┤",
          "│ ep_rdy   │ 0x1 │ 0x1 │",
          "╰──────────┴─────┴─────╯"] := by
  have hreports : (raggedSnapshot[(1 : UInt32)]?.map fun e => e.status["in_run"]?) = some (some 1) := by decide +kernel
  obtain ⟨e, he, hflag⟩ := Option.map_eq_some_iff.mp hreports
  refine ⟨fun h => ?_, by rw [he]; exact hflag, by decide +kernel⟩
  have hcells := h "in_run" ⟨1, e, he, Std.ExtTreeMap.isSome_getElem?_iff_mem.mp (by rw [hflag]; rfl)⟩ 1 e he
  have hnone : cellsAt "in_run" (decimalWord 1) (statusRows raggedSnapshot) = [] := by decide +kernel
  exact List.cons_ne_nil _ _ (hcells.symm.trans hnone)

end TimingFleet.Report
