import TimingFleet.Proofs.Text.DyedGrid
import TimingFleet.Report

/-!
# Colours in reports

A report is written with or without colours.  Everything that a report takes from numbers and tables is printable; only
titles and the names of flags and registers are shown as they were given (`Content.names`).

Each report with colours is dyed from the report without.  So colours add nothing else (`Content.uncoloured_text`):
taken off again, they leave the report as it is written without them, down to the last blank.  Of the palette this asks
only that it wraps texts in colour sequences, and of what draws the tables that it is a lawful renderer.
-/

namespace TimingFleet

open Text Text.Renderer

/-! ## Printable texts -/

namespace Text.Printable

theorem decimal (n : Nat) : Printable (Numeral.decimal n) := (Solid.decimal n).printable

theorem hex (n : Nat) : Printable (Numeral.hex n) := (Solid.hex n).printable

theorem padded (width n : Nat) : Printable (Numeral.padded width n) := by
  rw [Printable, Numeral.padded, String.toList_ofList]
  intro c hc
  rcases List.mem_append.mp hc with hzero | hdigit
  · rw [List.eq_of_mem_replicate hzero]
    decide
  · exact decimal n c (String.toList_ofList.symm ▸ hdigit)

/-- The name of a code, or the code. -/
theorem nameOrHex {names : CodeNames} (hnames : ∀ entry ∈ names, Printable entry.2) (code : UInt32) :
    Printable (names.nameOrHex code) := by
  unfold CodeNames.nameOrHex CodeNames.name?
  cases h : names.lookup code with
  | none => exact hex _
  | some name =>
    obtain ⟨before, after, rfl, -⟩ := List.lookup_eq_some_iff.mp h
    exact hnames (code, name) (by simp)

theorem ticks (t : UInt64) : Printable (Ticks.text t) := by
  have hyear : ∀ year, Printable (Date.yearText year) := by
    intro year
    unfold Date.yearText
    split_ifs
    · exact padded 4 year
    · exact .append (by decide) (decimal year)
  have hdate : ∀ d : Date, Printable d.text := fun d =>
    ((((hyear d.year).append (by decide)).append (padded 2 _)).append (by decide)).append (padded 2 _)
  have htime : ∀ time : TimeOfDay, Printable time.text := fun time =>
    ((((padded 2 _).append (by decide)).append (padded 2 _)).append (by decide)).append (padded 2 _)
  unfold Ticks.text Ticks.textUntil
  split
  · exact (((hdate _).append (by decide)).append (htime _)).append (by decide)
  · decide

end Text.Printable

namespace Report

variable {s : Snapshot} {label word : String} {cell cell' : EndpointSnapshot → String} {palette : Palette} {r : Renderer}

/-! ## Printable parts -/

theorem printable_label (state : EndpointState) : Printable state.label := by cases state <;> decide

theorem solid_commandLabel (code : Nat) : Solid (commandLabel code) := by
  have hnames : ∀ name ∈ commandNames, Solid name := by decide
  unfold commandLabel
  cases h : commandName? code with
  | none => exact .hex code
  | some name => exact hnames name (List.mem_of_getElem? h)

theorem printable_stateCell (code : UInt32) : Printable (stateCell .plain code) := by
  refine .append (.append (.append ?_ (by decide)) (.hex _)) (by decide)
  cases EndpointState.ofCode? code with
  | none => decide
  | some state =>
    cases state
    case ready => exact printable_label .ready
    all_goals exact printable_label _

theorem printable_readbackLines (r : Readback) : ∀ line ∈ readbackLines r, Printable line := by
  intro line hline
  rcases List.mem_append.mp hline with hline | hword
  · rcases List.mem_append.mp hline with hhead | hempty
    · rcases List.mem_pair.mp hhead with rfl | rfl
      · exact .append (by decide) (.hex _)
      · exact .decimal _
    · split_ifs at hempty
      · obtain rfl := List.mem_singleton.mp hempty
        decide
      · exact absurd hempty List.not_mem_nil
  · obtain ⟨i, hi, rfl⟩ := List.mem_mapIdx.mp hword
    exact .append (.append (.padded 4 i) (by decide)) (.hex _)

/-! ## Lines of text -/

section Lines

variable (hp : palette.Wraps)

include hp

theorem dyed_banner {title : String} (h : '\x1b' ∉ title.toList) :
    Dyed (banner palette title).toList (banner .plain title).toList :=
  (Dyed.printable_append (by decide) ((Dyed.refl h).paint hp .cyan)).append_printable (by decide)

theorem dyed_timeSync (t : TimeSync) : Dyed (timeSync palette t).toList (timeSync .plain t).toList := by
  have hold : Printable ("Old timestamp " ++ Numeral.hex t.old.toNat ++ ", " ++ Ticks.text t.old) :=
    ((Printable.append (by decide) (.hex _)).append (by decide)).append (.ticks t.old)
  have hbreak : '\x1b' ∉ "\nNew timestamp ".toList := by decide
  have hline := (Dyed.refl hold.not_mem).append_text (.refl hbreak)
  have hnew := (Dyed.refl (Printable.ticks t.new).not_mem).paint hp .blue
  exact ((hline.append_printable (.hex _)).append_printable (by decide)).append_text hnew

theorem dyed_delay (m : DelayMeasurement) : Dyed (delay palette m).toList (delay .plain m).toList := by
  have hdelay := (Dyed.refl (Printable.decimal m.delay.toNat).not_mem).paint hp .green
  have hlead := Dyed.printable_append (by decide : Printable "Measured RTT delay ") hdelay
  have hsent := (hlead.append_printable (by decide : Printable " (transmission ")).append_printable
    (.hex m.echo.sent.toNat)
  have hreceived := (hsent.append_printable (by decide : Printable ", reception ")).append_printable
    (.hex m.echo.received.toNat)
  have hfanout := (hreceived.append_printable (by decide : Printable ") via fanout ")).append_printable
    (.decimal m.fanout.toNat)
  exact (hfanout.append_printable (by decide : Printable ", slot ")).append_printable (.decimal m.slot.toNat)

theorem dyed_stateCell (code : UInt32) : Dyed (stateCell palette code).toList (stateCell .plain code).toList := by
  have hlabel : ∀ state : EndpointState, Dyed state.label.toList state.label.toList :=
    fun state => .refl (printable_label state).not_mem
  refine ((Dyed.append_printable ?_ (by decide)).append_printable (.hex _)).append_printable (by decide)
  cases EndpointState.ofCode? code with
  | none => exact (Dyed.refl (by decide)).paint hp .red
  | some state =>
    cases state
    case ready => exact (hlabel .ready).paint hp .green
    all_goals exact hlabel _

/-- **Colours inside of colours**: the cell of a slot that is not locked is painted over its painted state. -/
theorem dyed_slotStateCell (p : SlotScan) :
    Dyed (slotStateCell palette p).toList (slotStateCell .plain p).toList := by
  have hstate := dyed_stateCell hp p.stateCode
  have hplain : slotStateCell .plain p = stateCell .plain p.stateCode := ite_self _
  rw [hplain]
  unfold slotStateCell
  split_ifs
  · exact hstate
  · exact hstate.paint hp .red

end Lines

example : slotStateCell .coloured ⟨3, 1, 1, 7⟩ = "\x1b[31m\x1b[31mundefined\x1b[0m\x1b[31m (0x7)\x1b[0m" := by decide

theorem not_mem_intercalate {lines : List String} (h : ∀ line ∈ lines, Printable line) :
    '\x1b' ∉ ("\n".intercalate lines).toList := by
  induction lines with
  | nil => simp
  | cons line lines ih =>
    obtain ⟨hline, hlines⟩ := List.forall_mem_cons.mp h
    cases lines with
    | nil => simpa using hline.not_mem
    | cons next lines =>
      rw [String.intercalate_cons_cons]
      simpa [hline.not_mem] using ih hlines

theorem dyed_readback (r : Readback) : Dyed (readback r).toList (readback r).toList :=
  .refl (not_mem_intercalate (printable_readbackLines r))

/-! ## Cells and rows -/

section Tables

variable (hr : r.Lawful)

include hr

theorem dyedCell_printable (h : Printable word) : r.DyedCell word word := hr.dyedCell_refl h.not_mem

theorem dyedCell_getD {α : Type} {f g : α → String} (h : ∀ a, r.DyedCell (f a) (g a)) (value : Option α) :
    r.DyedCell ((value.map f).getD noValue) ((value.map g).getD noValue) := by
  cases value with
  | none => exact dyedCell_printable hr (by decide : Printable noValue)
  | some a => exact h a

theorem dyedRow_heading (s : Snapshot) : r.DyedRow (headingRow s) (headingRow s) :=
  .cons (hr.dyedCell_refl (by decide)) (rel_map_self fun _ _ => dyedCell_printable hr (.decimal _))

theorem dyedRow_snapshot (hlabel : '\x1b' ∉ label.toList) (hcell : ∀ e, r.DyedCell (cell e) (cell' e)) :
    r.DyedRow (snapshotRow s label cell) (snapshotRow s label cell') :=
  .cons (hr.dyedCell_refl hlabel) (rel_map_self fun e _ => hcell e)

/-- A row with a label and one word. -/
theorem dyedRow_pair (hlabel : '\x1b' ∉ label.toList) (h : Printable word) :
    r.DyedRow [label, word] [label, word] :=
  .cons (hr.dyedCell_refl hlabel) (.cons (dyedCell_printable hr h) .nil)

/-! ## Tables -/

theorem dyed_summary (hp : palette.Wraps) (s : Snapshot) :
    Dyed (r.draw (summaryRows palette s)).toList (r.draw (summaryRows .plain s)).toList := by
  have hpaint : ∀ {word : String} (c : Colour), Printable word → r.DyedCell (c.paint palette word) word :=
    fun c h => hr.dyedCell_of_dyed ((Dyed.refl h.not_mem).paint hp c) h
  refine hr.dyed_draw (.cons (dyedRow_heading hr s) (.cons (dyedRow_snapshot hr (by decide) fun e => ?state)
    (.cons (dyedRow_snapshot hr (by decide) fun e => dyedCell_printable hr (.decimal _))
    (.cons (dyedRow_snapshot hr (by decide) fun e => hpaint .blue (.decimal _))
    (.cons (dyedRow_snapshot hr (by decide) fun e => dyedCell_printable hr (.hex _))
    (.cons (dyedRow_snapshot hr (by decide) fun e => dyedCell_printable hr (.decimal _))
    (.cons (dyedRow_snapshot hr (by decide) fun e => ?buffer)
    (.cons (dyedRow_snapshot hr (by decide) fun e => dyedCell_printable hr (.decimal _)) .nil))))))))
  case state =>
    exact dyedCell_getD hr (fun code => hr.dyedCell_of_dyed (dyed_stateCell hp code) (printable_stateCell code)) _
  case buffer =>
    cases e.bufferOk
    · exact hpaint .red (by decide)
    · exact hpaint .green (by decide)

theorem dyed_slotScan (hp : palette.Wraps) (slots : List SlotScan) :
    Dyed (r.draw (slotRows palette slots)).toList (r.draw (slotRows .plain slots)).toList := by
  have hheading : ∀ cell ∈ ["Slot", "CDR lol", "SFP los", "Upstream state"], Printable cell := by decide
  have hstate : ∀ p, r.DyedCell (slotStateCell palette p) (slotStateCell .plain p) := fun p => by
    have hplain : slotStateCell .plain p = stateCell .plain p.stateCode := ite_self _
    exact hr.dyedCell_of_dyed (dyed_slotStateCell hp p) (hplain ▸ printable_stateCell p.stateCode)
  refine hr.dyed_draw (.cons (List.forall₂_same.mpr fun cell hcell => dyedCell_printable hr (hheading cell hcell))
    (rel_map_self fun p _ => ?slot))
  case slot =>
    exact .cons (dyedCell_printable hr (.decimal _)) (.cons (dyedCell_printable hr (.hex _))
      (.cons (dyedCell_printable hr (.hex _)) (.cons (hstate p) .nil)))

theorem dyed_statusFlags (h : ∀ name ∈ statusNames s, '\x1b' ∉ name.toList) :
    Dyed (r.draw (statusRows s)).toList (r.draw (statusRows s)).toList :=
  hr.dyed_draw (.cons (dyedRow_heading hr s) (rel_map_self fun name hname => dyedRow_snapshot hr (h name hname) fun _ =>
    dyedCell_getD hr (fun _ => dyedCell_printable hr (.hex _)) _))

theorem dyed_counters (s : Snapshot) : Dyed (r.draw (counterRows s)).toList (r.draw (counterRows s)).toList :=
  hr.dyed_draw (.cons (dyedRow_heading hr s) (rel_map_self fun code _ =>
    dyedRow_snapshot hr (solid_commandLabel code).printable.not_mem fun _ =>
      dyedCell_getD hr (fun _ => dyedCell_printable hr (.decimal _)) _))

theorem dyed_versions (v : VersionReport) : Dyed (r.draw (versionRows v)).toList (r.draw (versionRows v)).toList :=
  hr.dyed_draw (.cons (rel_map_self fun _ _ => dyedCell_printable hr (.decimal _))
    (.cons (rel_map_self fun _ _ => dyedCell_printable hr (.hex _)) .nil))

theorem dyed_registers {d : RegisterDump} (h : ∀ name ∈ d.keys, '\x1b' ∉ name.toList) (heading : Heading) :
    Dyed (r.draw (registerRows heading d)).toList (r.draw (registerRows heading d)).toList := by
  have hkeys : d.toList.map Prod.fst = d.keys := Std.ExtTreeMap.map_fst_toList_eq_keys
  have hname : ∀ entry ∈ d.toList, '\x1b' ∉ entry.1.toList :=
    fun entry hentry => h _ (hkeys ▸ List.mem_map_of_mem hentry)
  refine hr.dyed_draw (List.rel_append ?heading (rel_map_self fun entry hentry =>
    dyedRow_pair hr (hname entry hentry) (.hex _)))
  case heading =>
    split_ifs
    · exact .cons (dyedRow_pair hr (by decide) (by decide)) .nil
    · exact .nil

theorem dyed_identity (i : BoardIdentity) : Dyed (r.draw (identityRows i)).toList (r.draw (identityRows i)).toList :=
  hr.dyed_draw (.cons (dyedRow_pair hr (by decide) (.nameOrHex (by decide) _))
    (.cons (dyedRow_pair hr (by decide) (.nameOrHex (by decide) _))
    (.cons (dyedRow_pair hr (by decide) (.nameOrHex (by decide) _))
    (.cons (dyedRow_pair hr (by decide) (.hex _)) .nil))))

end Tables

/-! ## Every report -/

/-- What a report is about. -/
inductive Content where
  | banner (title : String)
  | stateCell (code : UInt32)
  | summary (s : Snapshot)
  | statusFlags (s : Snapshot)
  | counters (s : Snapshot)
  | versions (r : VersionReport)
  | readback (r : Readback)
  | registers (heading : Heading) (d : RegisterDump)
  | identity (i : BoardIdentity)
  | timeSync (t : TimeSync)
  | slotScan (slots : List SlotScan)
  | delay (m : DelayMeasurement)

namespace Content

/-- The report with or without colours. -/
def text (palette : Palette) : Content → String
  | banner title => Report.banner palette title
  | stateCell code => Report.stateCell palette code
  | summary s => Report.summary palette s
  | statusFlags s => Report.statusFlags s
  | counters s => Report.counters s
  | versions r => Report.versions r
  | readback r => Report.readback r
  | registers heading d => Report.registers heading d
  | identity i => Report.identity i
  | timeSync t => Report.timeSync palette t
  | slotScan slots => Report.slotScan palette slots
  | delay m => Report.delay palette m

/-- The report as a palette paints it, with its tables drawn by `draw`. -/
def textBy (palette : Palette) (draw : Grid → String) : Content → String
  | banner title => Report.banner palette title
  | stateCell code => Report.stateCell palette code
  | summary s => draw (summaryRows palette s)
  | statusFlags s => draw (statusRows s)
  | counters s => draw (counterRows s)
  | versions r => draw (versionRows r)
  | readback r => Report.readback r
  | registers heading d => draw (registerRows heading d)
  | identity i => draw (identityRows i)
  | timeSync t => Report.timeSync palette t
  | slotScan slots => draw (slotRows palette slots)
  | delay m => Report.delay palette m

theorem textBy_draw (palette : Palette) (content : Content) : content.textBy palette Grid.draw = content.text palette := by
  cases content <;> rfl

/-- The texts that the report shows as they were given to it. -/
def names : Content → List String
  | banner title => [title]
  | statusFlags s => statusNames s
  | registers _ d => d.keys
  | _ => []

/-- A report with colours is a dyed form of the one without. -/
theorem dyed_textBy {content : Content} (h : ∀ name ∈ content.names, '\x1b' ∉ name.toList) (hp : palette.Wraps)
    (hr : r.Lawful) : Dyed (content.textBy palette r.draw).toList (content.textBy .plain r.draw).toList := by
  cases content with
  | banner title => exact dyed_banner hp (h title (List.mem_singleton.mpr rfl))
  | stateCell code => exact dyed_stateCell hp code
  | summary s => exact dyed_summary hr hp s
  | statusFlags s => exact dyed_statusFlags hr h
  | counters s => exact dyed_counters hr s
  | versions r => exact dyed_versions hr r
  | readback r => exact dyed_readback r
  | registers heading d => exact dyed_registers hr h heading
  | identity i => exact dyed_identity hr i
  | timeSync t => exact dyed_timeSync hp t
  | slotScan slots => exact dyed_slotScan hr hp slots
  | delay m => exact dyed_delay hp m

/-- **Colours change nothing but colours**: when the given texts have no escape characters, a report with its colours
taken off is the report without colours, whichever way a palette wraps texts and a lawful renderer draws tables. -/
theorem uncoloured_text (content : Content) (h : ∀ name ∈ content.names, '\x1b' ∉ name.toList) :
    uncoloured (content.text .coloured).toList = (content.text .plain).toList ∧
      ∀ (palette : Palette) (r : Renderer), palette.Wraps → r.Lawful →
        uncoloured (content.textBy palette r.draw).toList = (content.textBy .plain r.draw).toList := by
  have hany : ∀ (palette : Palette) (r : Renderer), palette.Wraps → r.Lawful →
      uncoloured (content.textBy palette r.draw).toList = (content.textBy .plain r.draw).toList :=
    fun _ _ hp hr => uncoloured_of_dyed (dyed_textBy h hp hr)
  have hthis := hany .coloured Grid.renderer Palette.wraps_coloured Grid.lawful_renderer
  rw [Grid.renderer, textBy_draw, textBy_draw] at hthis
  exact ⟨hthis, hany⟩

/-- The heading of a section, and the table of a slot that is not locked. -/
theorem uncoloured_text_banner :
    (∀ name ∈ (banner "PLL status").names, '\x1b' ∉ name.toList) ∧
      Palette.coloured.Wraps ∧ Grid.renderer.Lawful ∧
      (banner "PLL status").text .coloured = "--- \x1b[36mPLL status\x1b[0m ---" ∧
      uncoloured ((banner "PLL status").text .coloured).toList = "--- PLL status ---".toList ∧
      uncoloured ((slotScan [⟨3, 1, 1, 7⟩]).textBy .coloured Grid.renderer.draw).toList =
        ((slotScan [⟨3, 1, 1, 7⟩]).textBy .plain Grid.renderer.draw).toList := by
  have hnames : ∀ name ∈ (banner "PLL status").names, '\x1b' ∉ name.toList := by decide
  have hnone : ∀ name ∈ (slotScan [⟨3, 1, 1, 7⟩]).names, '\x1b' ∉ name.toList := by decide
  exact ⟨hnames, Palette.wraps_coloured, Grid.lawful_renderer, by decide, (uncoloured_text (banner "PLL status") hnames).1,
    (uncoloured_text _ hnone).2 .coloured Grid.renderer Palette.wraps_coloured Grid.lawful_renderer⟩

end Content

end Report

end TimingFleet
