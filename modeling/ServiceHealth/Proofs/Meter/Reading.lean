import Mathlib.Data.List.Forall2
import ServiceHealth.Proofs.Meter.Legible
import ServiceHealth.Text.Pieces

/-!
# The metrics page, read back

A label ends at the quote after its value, a sample at the end of its line, and a family where the
next comment begins. As long as no text on the page holds a quote or a line feed, these places are
found again, so the page determines what is on it.
-/
namespace ServiceHealth

namespace Meter

/-- A label as it stands between the braces. -/
def labelText (l : String × String) : String := l.1 ++ "=\"" ++ l.2 ++ "\""

def moreLabels (ls : List (String × String)) : List Char :=
  ls.flatMap fun l => ',' :: (labelText l).toList

/-- The line of a sample before its value. -/
def Sample.head (family : String) (s : Sample) : String :=
  family ++ s.suffix ++ labelsText s.labels

/-- The end of a name: neither labels nor a value are taken to begin in it. -/
def RegularSuffix (suffix : String) : Prop :=
  ∀ c ∈ suffix.toList, c ≠ '\x7b' ∧ c ≠ ' ' ∧ c ≠ '\n'

instance (suffix : String) : Decidable (RegularSuffix suffix) :=
  inferInstanceAs (Decidable (∀ c ∈ suffix.toList, _))

/-- The name of a label: no value is taken to begin in it. -/
def RegularName (name : String) : Prop := ∀ c ∈ name.toList, c ≠ '=' ∧ c ≠ '\n'

instance (name : String) : Decidable (RegularName name) :=
  inferInstanceAs (Decidable (∀ c ∈ name.toList, _))

/-- Neither the name of a label nor its value is taken to end early. -/
structure RegularLabel (l : String × String) : Prop where
  name : RegularName l.1
  value : Legible l.2

/-- Nothing in a sample is taken for anything else. -/
structure Sample.Regular (s : Sample) : Prop where
  suffix : RegularSuffix s.suffix
  labels : ∀ l ∈ s.labels, RegularLabel l
  value : Legible s.value

def Block.header (b : Block) : String × String × Shape := (b.name, b.purpose, b.shape)

/-- The comments of a family are one line each, and its samples are no comments. -/
def RegularHeader (h : String × String × Shape) : Prop :=
  (∀ c ∈ h.1.toList, c ≠ '\n') ∧ (∀ c ∈ h.2.1.toList, c ≠ '\n') ∧ h.1.toList.head?.any (· ≠ '#')

instance (h : String × String × Shape) : Decidable (RegularHeader h) :=
  inferInstanceAs (Decidable (_ ∧ _))

/-- Nothing in a family is taken for anything else. -/
structure Block.Regular (b : Block) : Prop where
  header : RegularHeader b.header
  samples : ∀ s ∈ b.samples, s.Regular

/-! ### Labels -/

theorem toList_labelText (l : String × String) (rest : List Char) :
    (labelText l).toList ++ rest = l.1.toList ++ '=' :: '"' :: (l.2.toList ++ '"' :: rest) := by
  simp [labelText, String.toList_append]

theorem intercalate_cons {α : Type} (sep : α) (x : List α) (xs : List (List α)) :
    [sep].intercalate (x :: xs) = x ++ xs.flatMap (sep :: ·) := by
  induction xs generalizing x with
  | nil => simp [List.intercalate]
  | cons y ys ih =>
    have hstep : [sep].intercalate (x :: y :: ys) = x ++ sep :: [sep].intercalate (y :: ys) := by
      simp [List.intercalate]
    rw [hstep, ih, List.flatMap_cons]
    rfl

theorem toList_labelsText (l : String × String) (ls : List (String × String)) :
    (labelsText (l :: ls)).toList =
      '\x7b' :: ((labelText l).toList ++ (moreLabels ls ++ ['\x7d'])) := by
  have hsep : ",".toList = [','] := by decide
  have hopen : "\x7b".toList = ['\x7b'] := by decide
  have hclose : "\x7d".toList = ['\x7d'] := by decide
  rw [labelsText, List.isEmpty_cons, if_neg Bool.false_ne_true, String.toList_append,
    String.toList_append, String.toList_intercalate, hsep, hopen, hclose, List.map_map,
    List.map_cons, intercalate_cons, List.flatMap_map]
  simp [labelText, moreLabels]

/-- A label ends where its value does. -/
theorem labelText_inj {l m : String × String} (hl : RegularLabel l) (hm : RegularLabel m)
    {rest more : List Char} (h : (labelText l).toList ++ rest = (labelText m).toList ++ more) :
    l = m ∧ rest = more := by
  rw [toList_labelText, toList_labelText] at h
  obtain ⟨hname, -, hquoted⟩ := @Text.append_cons_inj _ (· == '=') _ _ _ _ _ _
    (fun c hc => beq_eq_false_iff_ne.mpr (hl.name c hc).1)
    (fun c hc => beq_eq_false_iff_ne.mpr (hm.name c hc).1) rfl rfl h
  obtain ⟨hvalue, -, hrest⟩ := @Text.append_cons_inj _ (· == '"') _ _ _ _ _ _
    (fun c hc => beq_eq_false_iff_ne.mpr (hl.value c hc).1)
    (fun c hc => beq_eq_false_iff_ne.mpr (hm.value c hc).1) rfl rfl (List.cons.inj hquoted).2
  exact ⟨Prod.ext (String.toList_inj.mp hname) (String.toList_inj.mp hvalue), hrest⟩

/-- Labels end where the brace is closed. -/
theorem labels_inj {l m : String × String} {ls ms : List (String × String)}
    (hl : ∀ x ∈ l :: ls, RegularLabel x) (hm : ∀ x ∈ m :: ms, RegularLabel x)
    {rest more : List Char}
    (h : (labelText l).toList ++ (moreLabels ls ++ '\x7d' :: rest) =
      (labelText m).toList ++ (moreLabels ms ++ '\x7d' :: more)) :
    l :: ls = m :: ms ∧ rest = more := by
  induction ls generalizing l m ms with
  | nil =>
    obtain ⟨rfl, hrest⟩ := labelText_inj (hl l List.mem_cons_self) (hm m List.mem_cons_self) h
    cases ms with
    | nil => exact ⟨rfl, (List.cons.inj hrest).2⟩
    | cons y ms => simp [moreLabels] at hrest
  | cons x ls ih =>
    obtain ⟨rfl, hrest⟩ := labelText_inj (hl l List.mem_cons_self) (hm m List.mem_cons_self) h
    cases ms with
    | nil => simp [moreLabels] at hrest
    | cons y ms =>
      simp only [moreLabels, List.flatMap_cons, List.cons_append, List.append_assoc,
        List.cons.injEq, true_and] at hrest
      obtain ⟨hlabels, hmore⟩ := ih (fun z hz => hl z (List.mem_cons_of_mem l hz))
        (fun z hz => hm z (List.mem_cons_of_mem l hz)) hrest
      exact ⟨congrArg (l :: ·) hlabels, hmore⟩

/-! ### Samples -/

variable {s s' : Sample} {family : String}

theorem toList_line (family : String) (s : Sample) :
    (s.line family).toList = family.toList ++
      (s.suffix.toList ++ ((labelsText s.labels).toList ++ ' ' :: s.value.toList)) := by
  simp [Sample.line, String.toList_append]

theorem labelsText_nil : (labelsText []).toList = [] := by decide

theorem Sample.ext_of {s s' : Sample} (hsuffix : s.suffix = s'.suffix)
    (hlabels : s.labels = s'.labels) (hvalue : s.value = s'.value) : s = s' := by
  cases s
  cases s'
  simp_all

/-- A line determines its sample, once the family is known. -/
theorem line_inj (hs : s.Regular) (hs' : s'.Regular) (h : s.line family = s'.line family) :
    s = s' := by
  have hchars := congrArg String.toList h
  rw [toList_line, toList_line, List.append_cancel_left_eq] at hchars
  let stops (c : Char) : Bool := c == '\x7b' || c == ' '
  have hnot {t : Sample} (ht : t.Regular) : ∀ c ∈ t.suffix.toList, stops c = false := by
    intro c hc
    obtain ⟨hbrace, hblank, -⟩ := ht.suffix c hc
    simp [stops, hbrace, hblank]
  cases hl : s.labels with
  | nil =>
    cases hl' : s'.labels with
    | nil =>
      rw [hl, hl', labelsText_nil, List.nil_append, List.nil_append] at hchars
      obtain ⟨hsuffix, -, hvalue⟩ := Text.append_cons_inj (hnot hs) (hnot hs') rfl rfl hchars
      exact Sample.ext_of (String.toList_inj.mp hsuffix) (hl.trans hl'.symm)
        (String.toList_inj.mp hvalue)
    | cons m ms =>
      rw [hl, hl', labelsText_nil, List.nil_append, toList_labelsText, List.cons_append] at hchars
      obtain ⟨-, hfirst, -⟩ := Text.append_cons_inj (hnot hs) (hnot hs') rfl rfl hchars
      contradiction
  | cons l ls =>
    cases hl' : s'.labels with
    | nil =>
      rw [hl, hl', labelsText_nil, List.nil_append, toList_labelsText, List.cons_append] at hchars
      obtain ⟨-, hfirst, -⟩ := Text.append_cons_inj (hnot hs) (hnot hs') rfl rfl hchars
      contradiction
    | cons m ms =>
      rw [hl, hl', toList_labelsText, toList_labelsText, List.cons_append, List.cons_append]
        at hchars
      obtain ⟨hsuffix, -, hrest⟩ := Text.append_cons_inj (hnot hs) (hnot hs') rfl rfl hchars
      simp only [List.append_assoc, List.singleton_append] at hrest
      obtain ⟨hlabels, hvalue⟩ := labels_inj (hl ▸ hs.labels) (hl' ▸ hs'.labels) hrest
      exact Sample.ext_of (String.toList_inj.mp hsuffix) (hl.trans (hlabels.trans hl'.symm))
        (String.toList_inj.mp (List.cons.inj hvalue).2)

/-- Samples of a family that begin in the same way have the same labels. -/
theorem head_inj (hs : s.Regular) (hs' : s'.Regular) (h : s.head family = s'.head family) :
    s.suffix = s'.suffix ∧ s.labels = s'.labels := by
  have hempty {t : Sample} (ht : t.Regular) : ({ t with value := "" } : Sample).Regular :=
    ⟨ht.suffix, ht.labels, show Legible "" by decide⟩
  have hline : ({ s with value := "" } : Sample).line family =
      ({ s' with value := "" } : Sample).line family := congrArg (· ++ " " ++ "") h
  have hsame := line_inj (hempty hs) (hempty hs') hline
  simpa using hsame

/-- No line feed stands in the line of a sample. -/
theorem line_unbroken (hfamily : ∀ c ∈ family.toList, c ≠ '\n') (hs : s.Regular) :
    ∀ c ∈ (s.line family).toList, c ≠ '\n' := by
  have hlabel {l : String × String} (hl : l ∈ s.labels) : ∀ c ∈ (labelText l).toList, c ≠ '\n' := by
    have hregular := hs.labels l hl
    rw [← List.append_nil (labelText l).toList, toList_labelText]
    simp only [List.forall_mem_append, List.forall_mem_cons]
    exact ⟨fun c hc => (hregular.name c hc).2, by decide, by decide,
      fun c hc => (hregular.value c hc).2, by decide, by simp⟩
  have hlabels : ∀ c ∈ (labelsText s.labels).toList, c ≠ '\n' := by
    cases hls : s.labels with
    | nil => simp [labelsText_nil]
    | cons l ls =>
      rw [hls] at hlabel
      rw [toList_labelsText]
      simp only [List.forall_mem_append, List.forall_mem_cons]
      refine ⟨by decide, hlabel List.mem_cons_self, fun c hc => ?_, by decide, by simp⟩
      obtain ⟨m, hm, hc⟩ := List.mem_flatMap.mp hc
      obtain rfl | hc := List.mem_cons.mp hc
      · decide
      · exact hlabel (List.mem_cons_of_mem l hm) c hc
  rw [toList_line]
  simp only [List.forall_mem_append, List.forall_mem_cons]
  exact ⟨hfamily, fun c hc => (hs.suffix c hc).2.2, hlabels, by decide,
    fun c hc => (hs.value c hc).2⟩

/-! ### Families -/

def pageText (blocks : List Block) : String :=
  String.join ((blocks.flatMap Block.lines ++ ["# EOF"]).map (· ++ "\n"))

def isComment (line : String) : Bool := line.toList.head? = some '#'

variable {b b' : Block} {blocks blocks' : List Block}

theorem Block.Regular.isComment_line (hb : b.Regular) (s : Sample) :
    isComment (s.line b.name) = false := by
  obtain ⟨-, -, hfirst⟩ := hb.header
  rw [isComment, toList_line]
  cases hname : b.name.toList with
  | nil => simp [Block.header, hname] at hfirst
  | cons c rest => simpa [Block.header, hname] using hfirst

/-- After the samples of a family comes a comment: that of the next family, or the last one. -/
theorem begins_comment (blocks : List Block) : ∃ line rest,
    blocks.flatMap Block.lines ++ ["# EOF"] = line :: rest ∧ isComment line := by
  cases blocks with
  | nil => exact ⟨_, [], rfl, by decide⟩
  | cons b blocks =>
    refine ⟨_, _, rfl, ?_⟩
    simp [isComment, String.toList_append]

theorem samples_inj {samples samples' : List Sample} (h : ∀ s ∈ samples, s.Regular)
    (h' : ∀ s ∈ samples', s.Regular)
    (hlines : samples.map (·.line family) = samples'.map (·.line family)) : samples = samples' := by
  induction samples generalizing samples' with
  | nil => exact (List.map_eq_nil_iff.mp hlines.symm).symm
  | cons s rest ih =>
    cases samples' with
    | nil => contradiction
    | cons s' rest' =>
      obtain ⟨hline, hlines⟩ := List.cons.inj hlines
      rw [List.forall_mem_cons] at h h'
      rw [line_inj h.1 h'.1 hline, ih h.2 h'.2 hlines]

theorem Block.Regular.not_comment (hb : b.Regular) :
    ∀ line ∈ b.samples.map (·.line b.name), isComment line = false := by
  intro line hline
  obtain ⟨s, -, rfl⟩ := List.mem_map.mp hline
  exact hb.isComment_line s

/-- A family ends where the next comment begins. -/
theorem block_inj (hb : b.Regular) (hb' : b'.Regular) (hheader : b.header = b'.header)
    {line line' : String} {rest rest' : List String} (hline : isComment line)
    (hline' : isComment line') (h : b.lines ++ line :: rest = b'.lines ++ line' :: rest') :
    b = b' ∧ line :: rest = line' :: rest' := by
  obtain ⟨name, purpose, shape, samples⟩ := b
  obtain ⟨name', purpose', shape', samples'⟩ := b'
  simp only [Block.header, Prod.mk.injEq] at hheader
  obtain ⟨rfl, rfl, rfl⟩ := hheader
  simp only [Block.lines, List.cons_append, List.cons.injEq, true_and] at h
  obtain ⟨hsamples, rfl, rfl⟩ :=
    Text.append_cons_inj hb.not_comment hb'.not_comment hline hline' h
  have hsame : samples = samples' := samples_inj hb.samples hb'.samples hsamples
  exact ⟨congrArg _ hsame, rfl⟩

/-- The lines determine the samples, once the families are known. -/
theorem blocks_inj (h : ∀ b ∈ blocks, b.Regular) (h' : ∀ b ∈ blocks', b.Regular)
    (hheaders : blocks.map Block.header = blocks'.map Block.header)
    (hlines : blocks.flatMap Block.lines ++ ["# EOF"] = blocks'.flatMap Block.lines ++ ["# EOF"]) :
    blocks = blocks' := by
  induction blocks generalizing blocks' with
  | nil => exact (List.map_eq_nil_iff.mp hheaders.symm).symm
  | cons b blocks ih =>
    cases blocks' with
    | nil => contradiction
    | cons b' blocks' =>
      obtain ⟨hheader, htail⟩ := List.cons.inj hheaders
      rw [List.forall_mem_cons] at h h'
      rw [List.flatMap_cons, List.flatMap_cons, List.append_assoc, List.append_assoc] at hlines
      obtain ⟨line, rest, hrest, hcomment⟩ := begins_comment blocks
      obtain ⟨line', rest', hrest', hcomment'⟩ := begins_comment blocks'
      rw [hrest, hrest'] at hlines
      obtain ⟨rfl, hlater⟩ := block_inj h.1 h'.1 hheader hcomment hcomment' hlines
      rw [ih h.2 h'.2 htail (hrest.trans (hlater.trans hrest'.symm))]

/-- Every line of the page stands on one. -/
theorem pieces_join {lines : List String} (h : ∀ line ∈ lines, ∀ c ∈ line.toList, c ≠ '\n') :
    Text.pieces (· = '\n') (String.join (lines.map (· ++ "\n"))).toList =
      lines.map String.toList ++ [[]] := by
  induction lines with
  | nil => rfl
  | cons line lines ih =>
    rw [List.forall_mem_cons] at h
    have hfeed : "\n".toList = ['\n'] := by decide
    rw [String.toList_join] at ih ⊢
    rw [List.map_cons, List.flatMap_cons, String.toList_append, hfeed, List.append_assoc,
      List.singleton_append, Text.pieces_append (fun c hc => decide_eq_false (h.1 c hc)) rfl,
      ih h.2]
    rfl

theorem Block.Regular.unbroken (hb : b.Regular) :
    ∀ line ∈ b.lines, ∀ c ∈ line.toList, c ≠ '\n' := by
  have hshape : ∀ c ∈ b.shape.name.toList, c ≠ '\n' := by cases b.shape <;> decide
  have hhelp : ∀ c ∈ "# HELP ".toList, c ≠ '\n' := by decide
  have htype : ∀ c ∈ "# TYPE ".toList, c ≠ '\n' := by decide
  simp only [Block.lines, List.forall_mem_cons, String.toList_append, List.forall_mem_append]
  obtain ⟨hname, hpurpose, -⟩ := hb.header
  refine ⟨⟨⟨⟨⟨hhelp, hname⟩, by decide⟩, hpurpose⟩, by decide⟩,
    ⟨⟨⟨htype, hname⟩, by decide⟩, hshape⟩, fun line hline => ?_⟩
  obtain ⟨s, hs, rfl⟩ := List.mem_map.mp hline
  exact line_unbroken hname (hb.samples s hs)

/-- The page is cut into its lines: each comment and each sample is one. -/
theorem pieces_pageText (h : ∀ b ∈ blocks, b.Regular) :
    Text.pieces (· = '\n') (pageText blocks).toList =
      (blocks.flatMap Block.lines ++ ["# EOF"]).map String.toList ++ [[]] := by
  refine pieces_join fun line hline => ?_
  obtain hline | hline := List.mem_append.mp hline
  · obtain ⟨b, hb, hline⟩ := List.mem_flatMap.mp hline
    exact (h b hb).unbroken line hline
  · obtain rfl := List.mem_singleton.mp hline
    decide

theorem pageText_inj (h : ∀ b ∈ blocks, b.Regular) (h' : ∀ b ∈ blocks', b.Regular)
    (hheaders : blocks.map Block.header = blocks'.map Block.header)
    (htext : pageText blocks = pageText blocks') : blocks = blocks' := by
  have hpieces := congrArg (fun text : String => Text.pieces (· = '\n') text.toList) htext
  simp only [pieces_pageText h, pieces_pageText h', List.append_cancel_right_eq] at hpieces
  have hinj : Function.Injective String.toList := fun _ _ => String.toList_inj.mp
  exact blocks_inj h h' hheaders (List.map_injective_iff.mpr hinj hpieces)

/-- The same family, with its samples in any order. -/
structure Block.Reorders (b b' : Block) : Prop where
  header : b'.header = b.header
  samples : b.samples.Perm b'.samples

theorem Block.Reorders.regular (h : b.Reorders b') (hb : b.Regular) : b'.Regular where
  header := h.header ▸ hb.header
  samples s hs := hb.samples s (h.samples.mem_iff.mpr hs)

theorem Block.Reorders.refl (b : Block) : b.Reorders b := ⟨rfl, .refl _⟩

/-- Two families that are shown in the same way are the same. -/
theorem Block.Reorders.of_common {shown : Block} (h : b.Reorders shown) (h' : b'.Reorders shown) :
    b.Reorders b' :=
  ⟨h'.header.symm.trans h.header, h.samples.trans h'.samples.symm⟩

theorem reorders_of_common {shown : List Block} (h : List.Forall₂ Block.Reorders blocks shown)
    (h' : List.Forall₂ Block.Reorders blocks' shown) :
    List.Forall₂ Block.Reorders blocks blocks' := by
  induction h generalizing blocks' with
  | nil =>
    rw [List.forall₂_nil_right_iff.mp h']
    exact .nil
  | cons hb _ ih =>
    obtain ⟨b', rest', hb', hrest', rfl⟩ := List.forall₂_cons_right_iff.mp h'
    exact .cons (hb.of_common hb') (ih hrest')

theorem regular_of_reorders (h : List.Forall₂ Block.Reorders blocks blocks')
    (hregular : ∀ b ∈ blocks, b.Regular) : ∀ b ∈ blocks', b.Regular := by
  induction h with
  | nil => exact hregular
  | cons hb _ ih =>
    rw [List.forall_mem_cons] at hregular ⊢
    exact ⟨hb.regular hregular.1, ih hregular.2⟩

theorem headers_of_reorders (h : List.Forall₂ Block.Reorders blocks blocks') :
    blocks'.map Block.header = blocks.map Block.header := by
  induction h with
  | nil => rfl
  | cons hb _ ih => rw [List.map_cons, List.map_cons, hb.header, ih]

/-! ### Meters -/

def LegibleFamily {α : Type} (f : Family α) : Prop := ∀ e ∈ f.entries, ∀ v ∈ e.1, Legible v

theorem regularLabel_of_mem_zip {names : List String} (hnames : ∀ name ∈ names, RegularName name)
    {values : Labels} (hvalues : ∀ v ∈ values, Legible v) :
    ∀ l ∈ names.zip values, RegularLabel l := fun _ hl =>
  ⟨hnames _ (List.of_mem_zip hl).1, hvalues _ (List.of_mem_zip hl).2⟩

theorem regular_sample {suffix value : String} {labels : List (String × String)}
    (hsuffix : RegularSuffix suffix) (hlabels : ∀ l ∈ labels, RegularLabel l)
    (hvalue : Legible value) : Sample.Regular ⟨suffix, labels, value⟩ :=
  ⟨hsuffix, hlabels, hvalue⟩

/-- Families that have one sample for each combination of labels. -/
theorem regular_samples {α : Type} {names : List String} (hnames : ∀ name ∈ names, RegularName name)
    {suffix : String} (hsuffix : RegularSuffix suffix) {f : Family α} (hf : LegibleFamily f)
    {write : α → String} (hvalue : ∀ a, Legible (write a)) :
    ∀ s ∈ f.entries.map fun e => (⟨suffix, names.zip e.1, write e.2⟩ : Sample), s.Regular := by
  intro s hs
  obtain ⟨e, he, rfl⟩ := List.mem_map.mp hs
  exact regular_sample hsuffix (regularLabel_of_mem_zip hnames (hf e he)) (hvalue e.2)

theorem regular_histogram {labels : List (String × String)} (hlabels : ∀ l ∈ labels, RegularLabel l)
    (h : Histogram) : ∀ s ∈ h.samples labels, s.Regular := by
  have hbound : ∀ b ∈ boundTexts h.bounds, Legible b := by
    intro b hb
    obtain hb | hb := List.mem_append.mp hb
    · obtain ⟨x, -, rfl⟩ := List.mem_map.mp hb
      exact Decimal.legible_sampleText x
    · obtain rfl := List.mem_singleton.mp hb
      decide
  have hname : RegularName "le" := by decide
  rw [Histogram.samples, List.forall_mem_cons, List.forall_mem_cons]
  refine ⟨regular_sample (by decide) hlabels (Decimal.legible_sampleText _),
    regular_sample (by decide) hlabels (legible_ofNat _), fun s hs => ?_⟩
  obtain ⟨b, hb, rfl⟩ := List.mem_map.mp hs
  have hlabels : ∀ l ∈ ("le", b.1) :: labels, RegularLabel l :=
    List.forall_mem_cons.mpr ⟨⟨hname, hbound b.1 (List.of_mem_zip hb).1⟩, hlabels⟩
  exact regular_sample (by decide) hlabels (legible_ofNat _)

theorem regular_histogramSamples {names : List String}
    (hnames : ∀ name ∈ names, RegularName name) {f : Family Histogram} (hf : LegibleFamily f) :
    ∀ s ∈ histogramSamples names f, s.Regular := by
  intro s hs
  obtain ⟨e, he, hs⟩ := List.mem_flatMap.mp hs
  exact regular_histogram (regularLabel_of_mem_zip hnames (hf e he)) e.2 s hs

theorem regular_counterSamples {names : List String} (hnames : ∀ name ∈ names, RegularName name)
    {f : Family UInt64} (hf : LegibleFamily f) : ∀ s ∈ counterSamples names f, s.Regular :=
  regular_samples hnames (by decide) hf fun n => legible_ofNat n.toNat

theorem regular_gaugeSamples {names : List String} (hnames : ∀ name ∈ names, RegularName name)
    {f : Family Int64} (hf : LegibleFamily f) : ∀ s ∈ gaugeSamples names f, s.Regular :=
  regular_samples hnames (by decide) hf fun n => legible_ofInt n.toInt

theorem regular_unlabelled {suffix value : String} (hsuffix : RegularSuffix suffix)
    (hvalue : Legible value) : Sample.Regular ⟨suffix, [], value⟩ :=
  regular_sample hsuffix (by simp) hvalue

end Meter

namespace Meters

open Meter

/-- All values of labels are legible. -/
structure Legible (m : Meters) : Prop where
  probes : LegibleFamily m.probes
  probeLatency : LegibleFamily m.probeLatency
  instanceStatus : LegibleFamily m.instanceStatus
  successes : LegibleFamily m.successes
  failures : LegibleFamily m.failures
  transitions : LegibleFamily m.transitions
  instancesByStatus : LegibleFamily m.instancesByStatus
  notFound : LegibleFamily m.notFound

/-- A text shows the meters: their families in their order, each with its samples in any order. -/
def ShownBy (m : Meters) (text : String) : Prop :=
  ∃ blocks, List.Forall₂ Block.Reorders m.blocks blocks ∧ text = pageText blocks

theorem shownBy_page (m : Meters) : m.ShownBy m.page :=
  ⟨m.blocks, List.forall₂_same.mpr fun b _ => .refl b, rfl⟩

theorem headers_blocks (m : Meters) :
    m.blocks.map Block.header = initial.blocks.map Block.header := by
  simp only [blocks, List.map_cons, List.map_nil, Block.header]

theorem regularHeader_blocks (m : Meters) : ∀ b ∈ m.blocks, RegularHeader b.header := by
  simp only [blocks, List.forall_mem_cons, Block.header]
  decide +kernel

/-- On the page of meters with legible labels nothing is taken for anything else. -/
theorem regular_blocks {m : Meters} (h : m.Legible) : ∀ b ∈ m.blocks, b.Regular := by
  have hnone : ∀ s ∈ ([] : List Sample), s.Regular := by simp
  have hsamples : ∀ b ∈ m.blocks, ∀ s ∈ b.samples, s.Regular := by
    simp only [blocks, List.forall_mem_cons]
    exact ⟨regular_counterSamples (by decide) h.probes,
      regular_histogramSamples (by decide) h.probeLatency,
      ⟨regular_unlabelled (by decide) (legible_ofNat _), hnone⟩,
      regular_gaugeSamples (by decide) h.instanceStatus,
      regular_gaugeSamples (by decide) h.successes, regular_gaugeSamples (by decide) h.failures,
      regular_counterSamples (by decide) h.transitions,
      ⟨regular_unlabelled (by decide) (legible_ofInt _), hnone⟩,
      regular_gaugeSamples (by decide) h.instancesByStatus,
      ⟨regular_unlabelled (by decide) (legible_ofNat _), hnone⟩, regular_histogram (by simp) _,
      regular_counterSamples (by decide) h.notFound, by simp⟩
  exact fun b hb => ⟨regularHeader_blocks m b hb, hsamples b hb⟩

/-- A text shows one set of samples only. -/
theorem ShownBy.unique {m m' : Meters} (h : m.Legible) (h' : m'.Legible) {text : String}
    (hshown : m.ShownBy text) (hshown' : m'.ShownBy text) :
    List.Forall₂ Block.Reorders m.blocks m'.blocks := by
  obtain ⟨blocks, horder, rfl⟩ := hshown
  obtain ⟨blocks', horder', htext⟩ := hshown'
  have hheaders : blocks.map Block.header = blocks'.map Block.header := by
    rw [headers_of_reorders horder, headers_of_reorders horder', m.headers_blocks,
      m'.headers_blocks]
  obtain rfl := pageText_inj (regular_of_reorders horder (regular_blocks h))
    (regular_of_reorders horder' (regular_blocks h')) hheaders htext
  exact reorders_of_common horder horder'

end Meters

end ServiceHealth
