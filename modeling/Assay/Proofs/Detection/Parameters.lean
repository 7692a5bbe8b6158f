import Assay.Proofs.Detection.Nesting
import Assay.Proofs.Pattern.Preferred
import Assay.Proofs.Text.Numeral
import Assay.Proofs.Text.Trim

/-!
# How many parameters a function has

The parameters of a signature are the texts between its commas, without the markers that are none.
The name and the list are what the groups of a search remember, so they are told by what the search
prefers.

* `Signature`, `Signature.search`: a line that declares a function, and what is found in it;
* `Lists`, `parameters_of_lists`: the texts of a list, and which of them are parameters;
* `toldOfLine`: what a file is told of the parameters of one line;
* `told_parameters`: when it is told of them, and that markers do not matter.
-/

namespace Assay

namespace Complexity

open Pattern

/-! ## Signatures -/

/-- A line that declares a function, part by part. -/
structure Signature where
  lead : List Char
  keyword : String
  gap : List Char
  name : List Char
  space : List Char
  list : List Char
  rest : List Char
  lead_blank : ∀ c ∈ lead, Text.isBlank c = true
  keyword_known : keyword = "function" ∨ keyword = "def"
  gap_ne_nil : gap ≠ []
  gap_blank : ∀ c ∈ gap, Text.isBlank c = true
  name_ne_nil : name ≠ []
  name_word : ∀ c ∈ name, Text.isWord c = true
  space_blank : ∀ c ∈ space, Text.isBlank c = true
  list_open : ')' ∉ list

namespace Signature

/-- The line behind its leading blanks. -/
def body (s : Signature) : List Char :=
  s.keyword.toList ++ (s.gap ++ (s.name ++ (s.space ++ '(' :: (s.list ++ ')' :: s.rest))))

def line (s : Signature) : List Char :=
  s.lead ++ s.body

/-- The words that may start a signature. -/
def keywords : Pattern :=
  oneOfTexts ["function", "def"]

theorem keywords_takes {before : Option Char} {w rest : List Char}
    (h : keywords.Takes before w rest) : w = "function".toList ∨ w = "def".toList := by
  rcases h with h | h
  · exact Or.inl (takes_lit_iff.mp h)
  · exact Or.inr (takes_lit_iff.mp h)

/-- No signature starts at a blank. -/
theorem ends_signature_blank {x : Char} (hx : Text.isBlank x = true) (pos : Nat)
    (before : Option Char) (r : List Char) : signature.ends ⟨pos, before, x :: r⟩ [] = [] := by
  have hstart : (boundary ++ keywords).ends ⟨pos, before, x :: r⟩ [] = [] := by
    apply ends_eq_nil_iff.mpr
    rintro _ rest hrest ⟨u, v, rfl, ⟨rfl, _⟩, hv⟩
    rcases keywords_takes hv with rfl | rfl
    · obtain ⟨rfl, _⟩ := List.cons.inj hrest
      exact absurd hx (by decide)
    · obtain ⟨rfl, _⟩ := List.cons.inj hrest
      exact absurd hx (by decide)
  unfold signature
  iterate 6 apply ends_append_eq_nil
  exact hstart

theorem keywords_prefers (s : Signature) {c : Cursor} {rest : List Char}
    (hc : c.rest = s.keyword.toList ++ rest) :
    keywords.Prefers c [] (c.after s.keyword.toList rest) [] := by
  rcases s.keyword_known with hkeyword | hkeyword
  · rw [hkeyword] at hc ⊢
    exact (prefers_lit hc).left
  · have hother : (lit "function").ends c [] = [] := by
      apply ends_eq_nil_iff.mpr
      intro w r hr hw
      rw [hc, hkeyword, takes_lit_iff.mp hw] at hr
      exact absurd (List.cons.inj hr).1 (by decide)
    rw [hkeyword] at hc ⊢
    exact (prefers_lit hc).right hother

theorem atBoundary_body (s : Signature) :
    ((Cursor.start s.line).after s.lead s.body).atBoundary = true := by
  have hlead : ∀ x ∈ s.lead.getLast?, Text.isWord x = false := fun x hx =>
    Text.isWord_eq_false_of_isBlank (s.lead_blank x (List.mem_of_getLast? hx))
  have hbody : (s.body.head?.map Text.isWord).getD false = true := by
    unfold body
    rcases s.keyword_known with hkeyword | hkeyword
    · rw [hkeyword]
      rfl
    · rw [hkeyword]
      rfl
  unfold Cursor.atBoundary Cursor.after Cursor.start
  dsimp only
  rw [hbody, Option.or_none]
  cases hlast : s.lead.getLast? with
  | none => rfl
  | some x =>
    change (Text.isWord x != true) = true
    rw [hlead x hlast]
    rfl

/-- The name starts with no blank. -/
theorem name_head (s : Signature) (r : List Char) :
    ∀ x ∈ (s.name ++ r).head?, Text.isBlank x = false := by
  obtain ⟨y, ys, hname⟩ := List.exists_cons_of_ne_nil s.name_ne_nil
  intro x hx
  rw [hname] at hx
  obtain rfl : y = x := Option.some.inj hx
  apply Text.isBlank_eq_false_of_isWord
  apply s.name_word
  rw [hname]
  exact List.mem_cons_self

/-- The name does not go on behind its last character. -/
theorem space_head (s : Signature) (r : List Char) :
    ∀ x ∈ (s.space ++ '(' :: r).head?, Text.isWord x = false := by
  intro x hx
  cases hspace : s.space with
  | nil =>
    rw [hspace] at hx
    obtain rfl : '(' = x := Option.some.inj hx
    decide
  | cons y ys =>
    rw [hspace] at hx
    obtain rfl : y = x := Option.some.inj hx
    apply Text.isWord_eq_false_of_isBlank
    apply s.space_blank
    rw [hspace]
    exact List.mem_cons_self

/-- What a search finds in a line that declares a function. -/
theorem search (s : Signature) : ∃ found, signature.search? s.line = some found ∧
    found.group? 1 = some s.name ∧ found.group? 2 = some s.list := by
  -- What is left behind each part.
  let afterSpace := '(' :: (s.list ++ ')' :: s.rest)
  let afterName := s.space ++ afterSpace
  let afterGap := s.name ++ afterName
  let afterKeyword := s.gap ++ afterGap
  -- The places between the parts.
  let atKeyword := (Cursor.start s.line).after s.lead s.body
  let atGap := atKeyword.after s.keyword.toList afterKeyword
  let atName := atGap.after s.gap afterGap
  let atSpace := atName.after s.name afterName
  let atOpen := atSpace.after s.space afterSpace
  let atList := atOpen.after ['('] (s.list ++ ')' :: s.rest)
  let atClose := atList.after s.list (')' :: s.rest)
  have hstart : boundary.Prefers atKeyword [] atKeyword [] := prefers_boundary s.atBoundary_body
  have hkeyword : keywords.Prefers atKeyword [] atGap [] := s.keywords_prefers rfl
  have hgap : Pattern.gap.Prefers atGap [] atName [] :=
    prefers_run rfl (List.length_pos_iff.mpr s.gap_ne_nil) s.gap_blank (s.name_head afterName)
  have hname : (capture 1 word).Prefers atName [] atSpace [(1, s.name)] := by
    have hword : word.Prefers atName [] atSpace [] :=
      prefers_run rfl (List.length_pos_iff.mpr s.name_ne_nil) s.name_word (s.space_head _)
    have hcapture := hword.capture 1
    rwa [Cursor.textTo_after rfl] at hcapture
  have hspace : blanks.Prefers atSpace [(1, s.name)] atOpen [(1, s.name)] :=
    prefers_run rfl (Nat.zero_le _) s.space_blank (by
      intro x hx
      obtain rfl : '(' = x := Option.some.inj hx
      decide)
  have hopen : (lit "(").Prefers atOpen [(1, s.name)] atList [(1, s.name)] := prefers_lit rfl
  have hlist : (capture 2 (many (.noneOf ")"))).Prefers atList [(1, s.name)] atClose
      [(2, s.list), (1, s.name)] := by
    have hmany : (many (.noneOf ")")).Prefers atList [(1, s.name)] atClose [(1, s.name)] := by
      refine prefers_run rfl (Nat.zero_le _) ?_ ?_
      · intro x hx
        have hne : x ≠ ')' := fun heq => s.list_open (heq ▸ hx)
        simpa [CharClass.mem, CharClass.noneOf] using hne
      · intro x hx
        obtain rfl : ')' = x := Option.some.inj hx
        decide
    have hcapture := hmany.capture 2
    rwa [Cursor.textTo_after rfl] at hcapture
  have hclose : (lit ")").Prefers atClose [(2, s.list), (1, s.name)]
      (atClose.after [')'] s.rest) [(2, s.list), (1, s.name)] := prefers_lit rfl
  have hall : signature.Prefers atKeyword [] _ [(2, s.list), (1, s.name)] :=
    hstart.append hkeyword |>.append hgap |>.append hname |>.append hspace |>.append hopen
      |>.append hlist |>.append hclose
  have hlead : ∀ x later, x :: later <:+ s.lead →
      ∀ pos before, signature.ends ⟨pos, before, x :: (later ++ s.body)⟩ [] = [] :=
    fun x later hlater pos before =>
      ends_signature_blank (s.lead_blank x (hlater.subset List.mem_cons_self)) pos before _
  refine ⟨_, search?_of_prefers hlead hall, ?_, ?_⟩
  · rfl
  · rfl

end Signature

/-! ## Parameter lists -/

/-- What may stand between two commas as a parameter or a marker. -/
structure IsParameterText (text : List Char) : Prop where
  not_blank : ∃ c ∈ text, Text.isBlank c = false
  no_comma : ',' ∉ text

instance (text : List Char) : Decidable (IsParameterText text) :=
  decidable_of_iff ((text.any fun c => !Text.isBlank c) = true ∧ ',' ∉ text) (by
    rw [List.any_eq_true]
    simp only [Bool.not_eq_true']
    exact ⟨fun h => ⟨h.1, h.2⟩, fun h => ⟨h.not_blank, h.no_comma⟩⟩)

/-- A list that writes some texts, with commas between them and blanks around each. -/
inductive Lists : List (List Char) → List Char → Prop
  | empty {blank : List Char} (hblank : ∀ c ∈ blank, Text.isBlank c = true) : Lists [] blank
  | single {before text after : List Char} (hbefore : ∀ c ∈ before, Text.isBlank c = true)
      (hafter : ∀ c ∈ after, Text.isBlank c = true) : Lists [text] (before ++ text ++ after)
  | more {before text after next list : List Char} {texts : List (List Char)}
      (hbefore : ∀ c ∈ before, Text.isBlank c = true)
      (hafter : ∀ c ∈ after, Text.isBlank c = true) (hrest : Lists (next :: texts) list) :
      Lists (text :: next :: texts) (before ++ text ++ after ++ ',' :: list)

/-- The text is a parameter and no marker. -/
def isCounted (text : List Char) : Bool :=
  !markers.contains (String.ofList (Text.strip text))

theorem comma_notMem_of_blank {s : List Char} (h : ∀ c ∈ s, Text.isBlank c = true) : ',' ∉ s := by
  intro hcomma
  exact absurd (h ',' hcomma) (by decide)

theorem parameters_join (a b : List Char) :
    parameters (a ++ ',' :: b) = parameters a ++ parameters b := by
  unfold parameters
  rw [List.splitOn_append_cons_self, List.map_append, List.filter_append]

theorem parameters_single {piece : List Char} (h : ',' ∉ piece) : parameters piece =
    [Text.strip piece].filter fun p => !p.isEmpty && !markers.contains (String.ofList p) := by
  unfold parameters
  rw [List.splitOn_eq_singleton h]
  rfl

/-- A text with blanks around it is one parameter, or none if it is a marker. -/
theorem parameters_pad {before text after : List Char} (htext : IsParameterText text)
    (hbefore : ∀ c ∈ before, Text.isBlank c = true)
    (hafter : ∀ c ∈ after, Text.isBlank c = true) :
    parameters (before ++ text ++ after) = ([text].filter isCounted).map Text.strip := by
  have hcomma : ',' ∉ before ++ text ++ after := by
    simp only [List.mem_append, not_or]
    exact ⟨⟨comma_notMem_of_blank hbefore, htext.no_comma⟩, comma_notMem_of_blank hafter⟩
  have hempty : (Text.strip text).isEmpty = false := by
    rw [List.isEmpty_eq_false_iff]
    exact Text.strip_ne_nil htext.not_blank
  rw [parameters_single hcomma, Text.strip_pad hbefore hafter, List.filter_cons, hempty,
    List.filter_cons]
  change (if isCounted text = true then _ else _) = _
  split
  · rfl
  · rfl

/-- The parameters in a list are its texts without the markers. -/
theorem parameters_of_lists {texts : List (List Char)} {list : List Char} (h : Lists texts list)
    (htexts : ∀ t ∈ texts, IsParameterText t) :
    parameters list = (texts.filter isCounted).map Text.strip := by
  induction h with
  | empty hblank =>
    rw [parameters_single (comma_notMem_of_blank hblank), Text.strip_blank hblank]
    rfl
  | single hbefore hafter =>
    exact parameters_pad (htexts _ List.mem_cons_self) hbefore hafter
  | more hbefore hafter _ ih =>
    rw [List.forall_mem_cons] at htexts
    rw [parameters_join, parameters_pad htexts.1 hbefore hafter, ih htexts.2, ← List.map_append,
      ← List.filter_append]
    rfl

/-- Every list writes the texts between its commas. -/
theorem lists_splitOn (list : List Char) : Lists ((list.splitOn ',').map Text.strip) list := by
  have hpieces : ∀ pieces : List (List Char), pieces ≠ [] →
      Lists (pieces.map Text.strip) ([','].intercalate pieces) := by
    intro pieces hne
    induction pieces with
    | nil => exact absurd rfl hne
    | cons piece pieces ih =>
      obtain ⟨before, after, hcut, hbefore, hafter⟩ := (Text.trims_strip piece).cut
      cases pieces with
      | nil =>
        rw [List.intercalate_singleton]
        conv => arg 2; rw [hcut]
        exact .single hbefore hafter
      | cons next pieces =>
        rw [List.intercalate_cons_cons, List.append_assoc]
        conv => arg 2; rw [hcut]
        exact .more hbefore hafter (ih (List.cons_ne_nil next pieces))
  have h := hpieces (list.splitOn ',') (List.splitOn_ne_nil ',' list)
  rwa [List.intercalate_splitOn] at h

/-! ## The remark about a line -/

/-- A line that declares a function deserves a remark for more than five parameters. -/
theorem parameterRemark?_signature (s : Signature) {texts : List (List Char)}
    (hlist : Lists texts s.list) (htexts : ∀ t ∈ texts, IsParameterText t) :
    parameterRemark? s.line = if 5 < texts.countP isCounted then
      some (parameterRemark (String.ofList s.name) (texts.countP isCounted)) else none := by
  obtain ⟨found, hfound, hname, hparameters⟩ := s.search
  have hcount : (parameters s.list).length = texts.countP isCounted := by
    rw [parameters_of_lists hlist htexts, List.length_map, List.countP_eq_length_filter]
  unfold parameterRemark?
  rw [hfound, Option.bind_some, hname, hparameters]
  dsimp only [Option.getD_some]
  rw [hcount]

/-- The findings about some lines, the first of them with a given number. -/
def remarksFrom (first : Nat) (lines : List (List Char)) : List Finding :=
  (lines.zipIdx first).filterMap fun (line, n) => (parameterRemark? line).map fun r => ⟨r, n⟩

theorem remarksFrom_append (first : Nat) (above below : List (List Char)) :
    remarksFrom first (above ++ below) =
      remarksFrom first above ++ remarksFrom (first + above.length) below := by
  unfold remarksFrom
  rw [List.zipIdx_append, List.filterMap_append, Nat.add_comm first]

theorem remarksFrom_cons (first : Nat) (line : List Char) (below : List (List Char)) :
    remarksFrom first (line :: below) =
      ((parameterRemark? line).map fun r => ⟨r, first⟩).toList ++
        remarksFrom (first + 1) below := by
  unfold remarksFrom
  rw [List.zipIdx_cons, List.filterMap_cons]
  dsimp only
  cases parameterRemark? line with
  | none => rfl
  | some r => rfl

/-- There is no finding about a line that is not among them. -/
theorem remarksFrom_elsewhere {first n : Nat} {lines : List (List Char)}
    (h : n < first ∨ first + lines.length ≤ n) :
    (remarksFrom first lines).filter (fun f => f.line == n) = [] := by
  apply List.filter_eq_nil_iff.mpr
  intro f hf heq
  obtain ⟨⟨line, m⟩, hline, hremark⟩ := List.mem_filterMap.mp hf
  obtain ⟨r, _, rfl⟩ := Option.map_eq_some_iff.mp hremark
  obtain ⟨hlow, hhigh, _⟩ := List.mem_zipIdx hline
  have hm : m = n := eq_of_beq heq
  omega

/-- The findings about one line are about its own parameters. -/
theorem parameterFindings_at {lines : List (List Char)} {n : Nat} {line : List Char}
    (hline : lines[n]? = some line) :
    (parameterFindings lines).filter (fun f => f.line == n + 1) =
      ((parameterRemark? line).map fun r => ⟨r, n + 1⟩).toList := by
  obtain ⟨hlt, hget⟩ := List.getElem?_eq_some_iff.mp hline
  have hlines : lines = lines.take n ++ line :: lines.drop (n + 1) := by
    rw [← hget, List.getElem_cons_drop, List.take_append_drop]
  have hlength : 1 + (lines.take n).length = n + 1 := by
    rw [List.length_take_of_le (Nat.le_of_lt hlt), Nat.add_comm]
  have hhere : (((parameterRemark? line).map fun r => (⟨r, n + 1⟩ : Finding)).toList).filter
      (fun f => f.line == n + 1) = ((parameterRemark? line).map fun r => ⟨r, n + 1⟩).toList := by
    cases parameterRemark? line with
    | none => rfl
    | some r => simp
  change (remarksFrom 1 lines).filter _ = _
  rw [hlines, remarksFrom_append, remarksFrom_cons, List.filter_append, List.filter_append,
    remarksFrom_elsewhere (Or.inr (Nat.le_of_eq hlength)), hlength, hhere,
    remarksFrom_elsewhere (Or.inl (Nat.lt_succ_self (n + 1))), List.append_nil, List.nil_append]

/-- What a file is told of the parameters of one line. -/
def toldOfLine (u : SourceUnit) (n : Nat) : List (Option Int × Severity × String) :=
  (told "Too Many Parameters" (Detector.complexity.issues u)).filter fun t =>
    t.1 == some ((n : Int) + 1)

theorem toldOfLine_eq {u : SourceUnit} {n : Nat} {line : List Char}
    (hline : u.lines[n]? = some line) : toldOfLine u n = ((parameterRemark? line).map fun r =>
      (some ((n : Int) + 1), r.severity, r.description)).toList := by
  have hsame : ∀ f : Finding,
      (some (f.line : Int) == some ((n : Int) + 1)) = (f.line == n + 1) := by
    intro f
    rw [Bool.eq_iff_iff, beq_iff_eq, beq_iff_eq, Option.some_inj]
    omega
  have hfindings : (Detector.complexity.findings u).filter
      (fun f => f.remark.title == "Too Many Parameters") = parameterFindings u.lines := by
    rw [Detector.findings, List.filter_append, List.filter_append,
      functionFindings_untitled (by decide) (by decide), nestingFindings_untitled (by decide),
      parameterFindings_titled, List.nil_append, List.nil_append]
  unfold toldOfLine Detector.issues
  rw [told_toIssues, hfindings, List.filter_map]
  simp only [Function.comp_def, hsame]
  rw [parameterFindings_at hline]
  cases parameterRemark? line with
  | none => rfl
  | some r => rfl

theorem toldOfLine_signature {u : SourceUnit} {n : Nat} {s : Signature}
    {texts : List (List Char)} (hline : u.lines[n]? = some s.line) (hlist : Lists texts s.list)
    (htexts : ∀ t ∈ texts, IsParameterText t) :
    toldOfLine u n = if 5 < texts.countP isCounted then
      [(some ((n : Int) + 1), if 8 < texts.countP isCounted then .high else .medium,
        s!"Function '{String.ofList s.name}' has {texts.countP isCounted} parameters.")]
    else [] := by
  rw [toldOfLine_eq hline, parameterRemark?_signature s hlist htexts]
  split
  · rfl
  · rfl

/-! ## Markers -/

theorem isParameterText_marker {marker : String} (h : marker ∈ markers) :
    IsParameterText marker.toList := by
  have hall : ∀ m ∈ markers, IsParameterText m.toList := by
    decide +kernel
  exact hall marker h

theorem isCounted_marker {marker : String} (h : marker ∈ markers) :
    isCounted marker.toList = false := by
  have hall : ∀ m ∈ markers, isCounted m.toList = false := by
    decide +kernel
  exact hall marker h

/-- **Parameters are counted without the markers.** Of a line that declares a function, a file is
told exactly if more than five of the texts in its list strip to no marker, and then once: how many
they are, as severe if they are more than eight. A marker that is put anywhere into the list changes
nothing. -/
theorem told_parameters {u : SourceUnit} {n : Nat} {s : Signature} {texts : List (List Char)}
    (hline : u.lines[n]? = some s.line) (hlist : Lists texts s.list)
    (htexts : ∀ t ∈ texts, IsParameterText t) :
    (toldOfLine u n = if 5 < texts.countP isCounted then
      [(some ((n : Int) + 1), if 8 < texts.countP isCounted then .high else .medium,
        s!"Function '{String.ofList s.name}' has {texts.countP isCounted} parameters.")]
    else []) ∧
    ∀ (above below : List (List Char)) (marker : String) (v : SourceUnit) (t : Signature),
      texts = above ++ below → marker ∈ markers → t.name = s.name →
      Lists (above ++ marker.toList :: below) t.list → v.lines[n]? = some t.line →
      toldOfLine v n = toldOfLine u n := by
  refine ⟨toldOfLine_signature hline hlist htexts, ?_⟩
  intro above below marker v t hcut hmarker hname hlist' hline'
  have hall : ∀ x ∈ above ++ marker.toList :: below, IsParameterText x := by
    rw [hcut, List.forall_mem_append] at htexts
    exact List.forall_mem_append.mpr
      ⟨htexts.1, List.forall_mem_cons.mpr ⟨isParameterText_marker hmarker, htexts.2⟩⟩
  have hcount : (above ++ marker.toList :: below).countP isCounted = texts.countP isCounted := by
    rw [hcut, List.countP_append, List.countP_append,
      List.countP_cons_of_neg (by rw [isCounted_marker hmarker]; decide)]
  rw [toldOfLine_signature hline' hlist' hall, toldOfLine_signature hline hlist htexts, hcount,
    hname]

/-- Six parameters are enough to be told of, and a seventh text that is a marker is none. -/
theorem told_parameters_marked :
    let u : SourceUnit :=
      ⟨"a.py", "class A:\n  def f(self, a, b, c, d , e, g):", .python, .unstated⟩
    let v : SourceUnit :=
      ⟨"a.py", "class A:\n  def f(self, a, b, *, c, d , e, g):", .python, .unstated⟩
    toldOfLine u 1 = [(some 2, .medium, "Function 'f' has 6 parameters.")] ∧
      toldOfLine v 1 = toldOfLine u 1 := by
  intro u v
  let signatureOf (list : List Char) (hopen : ')' ∉ list) : Signature :=
    { lead := [' ', ' '], keyword := "def", gap := [' '], name := ['f'], space := [], list := list,
      rest := [':'], lead_blank := List.all_eq_true.mp rfl, keyword_known := Or.inr rfl,
      gap_ne_nil := List.cons_ne_nil _ _, gap_blank := List.all_eq_true.mp rfl,
      name_ne_nil := List.cons_ne_nil _ _, name_word := List.all_eq_true.mp rfl,
      space_blank := List.forall_mem_nil _, list_open := hopen }
  let s := signatureOf "self, a, b, c, d , e, g".toList (by decide +kernel)
  let t := signatureOf "self, a, b, *, c, d , e, g".toList (by decide +kernel)
  let texts := (s.list.splitOn ',').map Text.strip
  have hline : u.lines[1]? = some s.line := by decide +kernel
  have hline' : v.lines[1]? = some t.line := by decide +kernel
  have htexts : ∀ x ∈ texts, IsParameterText x := by decide +kernel
  have hcount : texts.countP isCounted = 6 := by decide +kernel
  obtain ⟨htold, hmarked⟩ := told_parameters hline (lists_splitOn s.list) htexts
  have hmarker : Lists (texts.take 3 ++ "*".toList :: texts.drop 3) t.list := by
    have hsplit : (t.list.splitOn ',').map Text.strip =
        texts.take 3 ++ "*".toList :: texts.drop 3 := by decide +kernel
    rw [← hsplit]
    exact lists_splitOn t.list
  refine ⟨?_, hmarked _ _ "*" v t (List.take_append_drop 3 texts).symm (by decide) rfl hmarker
    hline'⟩
  rw [htold, hcount]
  decide +kernel

end Complexity

end Assay
