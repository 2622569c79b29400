/-
# Documentation stays on the page

The width at which words are wrapped leaves room for what is printed in front of them: the mark of
a comment, and in a signature the longest type, an arrow and an indent as well. A line of
documentation is thus within the width of the page unless it cannot be broken, also where the page
has no room for a word. Titles and programs are not wrapped.

Key definitions: `FitsPage`, `Para.isWrapped`, `sourcedContent`, `SpellsWithin`.
Key theorems: `staysWithin_of_wrapWords`, `exists_of_sourcedContent`, `DocContext.comment_fits`,
`DocContext.signature_fits`, `DocContext.documentation_fits`.
-/
import BindingGen.Proofs.Function.Remarks
import BindingGen.Proofs.Text.Room

namespace BindingGen

open Text

/-- The line is not longer than the page is wide, or the documentation on it cannot be broken. -/
def FitsPage (width : Int) (line content : String) : Prop :=
  line.length ≤ width ∨ IsUnbroken content.toList

/-- The paragraph has words, which are wrapped. -/
def Para.isWrapped : Para → Bool
  | .text _ | .definition _ _ | .item _ => true
  | .program _ | .title _ | .unknown _ => false

/-! ### Lines of words -/

theorem length_spaces (n : Nat) : (spaces n).length = n := by
  rw [spaces, String.length_ofList, List.length_replicate]

/-- A line of words is within the width less the columns in front of it, or it cannot be broken. -/
theorem staysWithin_of_wrapWords {words lines : List String} {width : Int}
    (h : wrapWords words width commentColumn = .ok lines) {i : Nat} {line : String}
    (hline : lines[i]? = some line) :
    StaysWithin (if i = 0 then width - commentColumn else width) line.toList := by
  unfold wrapWords at h
  split_ifs at h
  · cases h
    obtain rfl : line = "" := List.mem_singleton.mp (List.mem_of_getElem? hline)
    exact .inr fun c hc => by cases hc
  · split at h
    · cases h
    · rename_i first rest hwrap
      have hcolumn : fromColumn commentColumn first = first := if_neg (by decide)
      rw [hcolumn, Except.ok.injEq] at h
      rw [← h, List.getElem?_map, Option.map_eq_some_iff] at hline
      obtain ⟨cs, hcs, rfl⟩ := hline
      rw [← hwrap, Int.toNat_natCast] at hcs
      rw [String.toList_ofList]
      exact staysWithin_of_wrapLines hcs

/-- Text behind `front` is on the page if the columns that `front` takes are left for it. -/
theorem fitsPage_of_staysWithin {width bound : Int} {front content : String}
    (h : StaysWithin bound content.toList) (hfront : front.length + bound ≤ width) :
    FitsPage width (front ++ content) content := by
  refine h.imp_left fun hlength => ?_
  rw [String.length_toList] at hlength
  rw [String.length_append]
  omega

theorem FitsPage.trimLine {width : Int} {line content : String} (h : FitsPage width line content) :
    FitsPage width (trimLine line) content := by
  refine h.imp_left fun hlength => ?_
  have htrim : (stripRight line.toList).length ≤ line.toList.length :=
    (List.rdropWhile_prefix isBlank line.toList).length_le
  rw [String.length_toList] at htrim
  rw [BindingGen.trimLine, String.length_ofList]
  omega

/-! ### Comments -/

/-- The content of a comment, each line with the paragraph it comes from; the empty lines between
paragraphs come from none. -/
def sourcedContent (blocks : List (Para × List String)) : List (Option Para × String) :=
  [(none, "")].intercalate
    ((blocks.filter fun b => !blankLines b.2).map fun b => b.2.map (some b.1, ·))

/-- Behind their marks, the lines of content that come from wrapped paragraphs are on the page. -/
def WrappedContentFits (width : Int) (content : List (Option Para × String)) : Prop :=
  ∀ i p text, content[i]? = some (some p, text) → p.isWrapped = true → '\n' ∉ text.toList ∧
    ∃ line, (commentLines (content.map (·.2)))[i]? = some line ∧
      line = trimLine ((if i = 0 then "-- | " else "-- ") ++ text) ∧ FitsPage width line text

theorem map_intercalate_singleton {α β : Type} (f : α → β) (separator : α)
    (parts : List (List α)) :
    ([separator].intercalate parts).map f = [f separator].intercalate (parts.map (·.map f)) := by
  induction parts with
  | nil => rfl
  | cons part rest ih =>
    cases rest with
    | nil => simp
    | cons next rest =>
      rw [List.intercalate_cons_cons, List.map_append, List.map_append, ih]
      simp [List.intercalate_cons_cons]

theorem map_snd_sourcedContent (blocks : List (Para × List String)) :
    (sourcedContent blocks).map (·.2) = commentContent (blocks.map (·.2)) := by
  rw [sourcedContent, map_intercalate_singleton, commentContent, List.filter_map, List.map_map]
  simp [Function.comp_def]

/-- A line of content is one of its paragraph's lines, and the first line of all is the first one
of its paragraph. -/
theorem exists_of_sourcedContent {blocks : List (Para × List String)} {i : Nat} {p : Para}
    {line : String} (h : (sourcedContent blocks)[i]? = some (some p, line)) :
    ∃ block j, (p, block) ∈ blocks ∧ block[j]? = some line ∧ (i = 0 → j = 0) := by
  have hpart : ∀ {b : Para × List String} {j : Nat},
      (b.2.map fun text => (some b.1, text))[j]? = some (some p, line) →
        b.1 = p ∧ b.2[j]? = some line := by
    intro b j hj
    rw [List.getElem?_map, Option.map_eq_some_iff] at hj
    obtain ⟨text, htext, heq⟩ := hj
    cases heq
    exact ⟨rfl, htext⟩
  cases i with
  | succ i =>
    have hmem := List.mem_of_getElem? h
    rcases mem_intercalate_singleton hmem with hnone | ⟨part, hpartMem, hline⟩
    · cases hnone
    · obtain ⟨b, hb, rfl⟩ := List.mem_map.mp hpartMem
      obtain ⟨j, hj⟩ := List.mem_iff_getElem?.mp hline
      obtain ⟨rfl, htext⟩ := hpart hj
      exact ⟨b.2, j, List.mem_of_mem_filter hb, htext, fun h => absurd h (Nat.succ_ne_zero i)⟩
  | zero =>
    unfold sourcedContent at h
    cases hblocks : blocks.filter fun b => !blankLines b.2 with
    | nil =>
      rw [hblocks] at h
      cases h
    | cons b rest =>
      have hb : b ∈ blocks.filter fun b => !blankLines b.2 := hblocks ▸ List.mem_cons_self
      obtain ⟨hmem, hvisible⟩ := List.mem_filter.mp hb
      have hne : b.2 ≠ [] := fun hnil => by simp [hnil, blankLines] at hvisible
      obtain ⟨first, others, hfirst⟩ := List.exists_cons_of_ne_nil hne
      have hhead : (b.2.map fun text => (some b.1, text))[0]? = some (some p, line) := by
        rw [← h, hblocks, List.map_cons]
        cases rest with
        | nil => rw [List.map_nil, List.intercalate_singleton]
        | cons next rest =>
          rw [List.map_cons, List.intercalate_cons_cons, hfirst]
          rfl
      obtain ⟨rfl, hj⟩ := hpart hhead
      exact ⟨b.2, 0, hmem, hj, fun _ => rfl⟩

theorem getElem?_commentLines {content : List String} {i : Nat} {line : String}
    (h : content[i]? = some line) :
    (commentLines content)[i]? =
      some (trimLine ((if i = 0 then "-- | " else "-- ") ++ line)) := by
  cases content with
  | nil => cases h
  | cons first rest =>
    cases i with
    | zero =>
      obtain rfl := Option.some.inj h
      rfl
    | succ i =>
      have hrest : (rest.map fun text => trimLine ("-- " ++ text))[i]? =
          some (trimLine ("-- " ++ line)) := by
        rw [List.getElem?_map, show rest[i]? = some line from h]
        rfl
      rw [commentLines, List.cons_append, List.getElem?_cons_succ,
        List.getElem?_append_left (List.getElem?_eq_some_iff.mp hrest).1, hrest,
        if_neg (Nat.succ_ne_zero i)]

namespace DocContext

variable {ctx : DocContext}

theorem exists_wrapWords_of_paragraphLines {p : Para} {lines : List String}
    (hp : p.isWrapped = true) (h : ctx.paragraphLines p = .ok lines) :
    ∃ words, wrapWords words ctx.paragraphWidth commentColumn = .ok lines := by
  cases p with
  | text spans =>
    obtain ⟨words, -, hwrap⟩ := bind_eq_ok_iff.mp h
    exact ⟨words, hwrap⟩
  | definition term spans =>
    obtain ⟨term, -, h⟩ := bind_eq_ok_iff.mp h
    obtain ⟨words, -, hwrap⟩ := bind_eq_ok_iff.mp h
    exact ⟨_, hwrap⟩
  | item spans =>
    obtain ⟨words, -, hwrap⟩ := bind_eq_ok_iff.mp h
    exact ⟨_, hwrap⟩
  | program text => cases hp
  | title title => cases hp
  | unknown kind => cases hp

/-- The lines of a comment are the content behind marks, and those of a wrapped paragraph are on
the page. -/
theorem comment_fits (ctx : DocContext) {paragraphs : List Para}
    (hknown : ∀ p ∈ paragraphs, p.isKnown = true) :
    ∃ blocks, paragraphs.mapM ctx.paragraphLines = .ok blocks ∧
      ctx.comment paragraphs =
        .ok (String.join ((commentLines ((sourcedContent (paragraphs.zip blocks)).map (·.2))).map
          (· ++ "\n"))) ∧
      WrappedContentFits ctx.settings.lineWidth (sourcedContent (paragraphs.zip blocks)) := by
  obtain ⟨blocks, hblocks⟩ : ∃ blocks, paragraphs.mapM ctx.paragraphLines = .ok blocks :=
    exists_ok_of_never (FailsOnly.mapM fun p hp => ctx.failsOnly_paragraphLines (hknown p hp))
  have hpairs := mapM_eq_ok_iff.mp hblocks
  refine ⟨blocks, hblocks, bind_eq_ok_iff.mpr ⟨blocks, hblocks, ?_⟩, ?_⟩
  · rw [map_snd_sourcedContent, List.map_snd_zip hpairs.length_eq.ge]
    rfl
  · intro i p content hcontent hp
    obtain ⟨block, j, hmem, hline, hfirst⟩ := exists_of_sourcedContent hcontent
    obtain ⟨words, hwrap⟩ :=
      exists_wrapWords_of_paragraphLines hp (List.forall₂_zip hpairs hmem)
    have hmap : ((sourcedContent (paragraphs.zip blocks)).map (·.2))[i]? = some content := by
      rw [List.getElem?_map, hcontent]
      rfl
    refine ⟨not_mem_break_of_mem_wrapWords hwrap (List.mem_of_getElem? hline), _,
      getElem?_commentLines hmap, rfl, ?_⟩
    refine (fitsPage_of_staysWithin (staysWithin_of_wrapWords hwrap hline) ?_).trimLine
    -- the mark of the first line is longer, and that line is wrapped to three columns less
    unfold paragraphWidth commentColumn
    by_cases hi : i = 0
    · rw [if_pos hi, if_pos (hfirst hi), show "-- | ".length = 5 by rfl]
      omega
    · rw [if_neg hi, show "-- ".length = 3 by rfl]
      split_ifs <;> omega

/-! ### Signatures -/

/-- The text spells the types in order, in a column that none of them passes. Behind a type with
documentation are the lines that the documentation is wrapped to, each on a line of its own, and
all of them are on the page. -/
inductive SpellsWithin (ctx : DocContext) (column : Nat) :
    Option Bool → List (String × Option (List Span)) → String → Prop
  | nil {after : Option Bool} : SpellsWithin ctx column after [] ""
  | bare {after : Option Bool} {lead type text : String}
    {types : List (String × Option (List Span))} :
    IsTypeLead after lead → SpellsWithin ctx column (some false) types text →
      SpellsWithin ctx column after ((type, none) :: types) (lead ++ type ++ text)
  | remarked {after : Option Bool} {lead type front first text : String} {doc : List Span}
    {rest : List String} {types : List (String × Option (List Span))} :
    IsTypeLead after ("\n" ++ lead) →
      ctx.wrapSpans doc (ctx.settings.lineWidth - column - 8) = .ok (first :: rest) →
      '\n' ∉ first.toList → (∀ line ∈ rest, '\n' ∉ line.toList) →
      front = lead ++ type ++ spaces (column - type.length) ++ " -- ^ " →
      FitsPage ctx.settings.lineWidth (front ++ first) first →
      (∀ line ∈ rest, FitsPage ctx.settings.lineWidth (spaces (column + 5) ++ "-- " ++ line) line) →
      SpellsWithin ctx column (some true) types text →
      SpellsWithin ctx column after ((type, some doc) :: types)
        ("\n" ++ (front ++ first) ++
          String.join (rest.map fun line => "\n" ++ (spaces (column + 5) ++ "-- " ++ line)) ++ text)

theorem exists_documentedLead (after : Option Bool) : ∃ lead : String, lead.length = 4 ∧
    typeLead after.isNone (after.getD false) true = "\n" ++ lead := by
  cases after with
  | none => exact ⟨"    ", rfl, rfl⟩
  | some after => exact ⟨" -> ", rfl, by cases after <;> rfl⟩

theorem spellsWithin_signatureFrom {column : Nat} {after : Option Bool}
    {types : List (String × Option (List Span))} {text : String}
    (h : ctx.signatureFrom column after types = .ok text)
    (hfits : ∀ t ∈ types, t.1.length ≤ column) : SpellsWithin ctx column after types text := by
  induction types generalizing after text with
  | nil =>
    cases h
    exact .nil
  | cons entry rest ih =>
    obtain ⟨type, doc⟩ := entry
    rw [List.forall_mem_cons] at hfits
    obtain ⟨typeText, htype, h⟩ := bind_eq_ok_iff.mp h
    obtain ⟨others, hothers, h⟩ := bind_eq_ok_iff.mp h
    rw [← Except.ok.inj h]
    have hlead := isTypeLead_typeLead after doc.isSome
    cases doc with
    | none =>
      cases htype
      exact .bare hlead (ih hothers hfits.2)
    | some doc =>
      obtain ⟨lines, hlines, htype⟩ := bind_eq_ok_iff.mp htype
      obtain ⟨first, more, rfl, hfirst, hmore⟩ := exists_cons_of_wrapSpans hlines
      obtain ⟨words, -, hwrap⟩ := bind_eq_ok_iff.mp hlines
      obtain ⟨lead, hlength, hbehind⟩ := exists_documentedLead after
      have hcolumn : type.length ≤ column := hfits.1
      rw [Option.isSome_some, hbehind] at hlead ⊢
      have hfirstFits : FitsPage ctx.settings.lineWidth
          (lead ++ type ++ spaces (column - type.length) ++ " -- ^ " ++ first) first := by
        refine fitsPage_of_staysWithin (staysWithin_of_wrapWords hwrap (i := 0) rfl) ?_
        simp only [String.length_append, length_spaces, hlength, show " -- ^ ".length = 6 by rfl,
          if_pos, commentColumn]
        omega
      have hmoreFits : ∀ line ∈ more,
          FitsPage ctx.settings.lineWidth (spaces (column + 5) ++ "-- " ++ line) line := by
        intro line hline
        obtain ⟨i, hi⟩ := List.mem_iff_getElem?.mp hline
        refine fitsPage_of_staysWithin (staysWithin_of_wrapWords hwrap (i := i + 1) hi) ?_
        rw [if_neg (Nat.succ_ne_zero i), String.length_append, length_spaces,
          show "-- ".length = 3 by rfl]
        omega
      rw [← Except.ok.inj htype, intercalate_cons_eq_append]
      have hspells := SpellsWithin.remarked hlead hlines hfirst hmore rfl hfirstFits hmoreFits
        (ih hothers hfits.2)
      simpa only [String.append_assoc] using hspells

/-- The types of a signature are spelled in the column of the longest one, and their documentation
is on the page. -/
theorem signature_fits (ctx : DocContext) {types : List (String × Option (List Span))}
    (hne : types ≠ []) (hknown : ∀ t ∈ types, ∀ spans ∈ t.2, ∀ s ∈ spans, s.isKnown = true) :
    ∃ text, ctx.signature types = .ok text ∧
      SpellsWithin ctx (typeColumn (types.map (·.1))) none types text := by
  obtain ⟨text, htext⟩ := exists_ok_of_never (ctx.failsOnly_signature hne hknown)
  refine ⟨text, htext, spellsWithin_signatureFrom ?_ fun t ht => ?_⟩
  · rw [← htext, signature, if_neg (by simpa using hne)]
  · exact length_le_typeColumn (List.mem_map_of_mem ht)

/-- **Documentation stays on the page.** The comment of known paragraphs is always written: its
lines are the content behind marks, and each line of a text, a definition or an item is within the
line width, or its content has no white space at which it could be broken. So is each line of
documentation in a signature, whatever the types, the symbols and the width are. -/
theorem documentation_fits (ctx : DocContext) {paragraphs : List Para}
    {types : List (String × Option (List Span))}
    (hparagraphs : ∀ p ∈ paragraphs, p.isKnown = true)
    (hspans : ∀ t ∈ types, ∀ spans ∈ t.2, ∀ s ∈ spans, s.isKnown = true) :
    (∃ blocks, paragraphs.mapM ctx.paragraphLines = .ok blocks ∧
      ctx.comment paragraphs =
        .ok (String.join ((commentLines ((sourcedContent (paragraphs.zip blocks)).map (·.2))).map
          (· ++ "\n"))) ∧
      WrappedContentFits ctx.settings.lineWidth (sourcedContent (paragraphs.zip blocks))) ∧
    (types ≠ [] → ∃ text, ctx.signature types = .ok text ∧
      SpellsWithin ctx (typeColumn (types.map (·.1))) none types text) :=
  ⟨ctx.comment_fits hparagraphs, fun hne => ctx.signature_fits hne hspans⟩

end DocContext

/-- What is said of opening a window. -/
def openParagraphs : List Para :=
  [.title "Opening",
    .text [.text "Opens a window, see ", .functionRef "gtk_window_present_with_time"],
    .item [.text "at\nonce"], .definition [.text "NULL"] [.text "if there is none"]]

/-- On a page of 24 columns the name of a function is too long for its line, and so are the words
behind the type of the window's parent; all other lines fit. -/
theorem documentation_fits_open :
    (∃ blocks, openParagraphs.mapM
        (DocContext.paragraphLines ⟨[], { lineWidth := 24 }, false⟩) = .ok blocks ∧
      (sourcedContent (openParagraphs.zip blocks)).map (·.2) =
        ["* Opening", "", "Opens a window,", "see", "'windowPresentWithTime'", "", "* at once", "",
          "[NULL] if there is", "none"] ∧
      WrappedContentFits 24 (sourcedContent (openParagraphs.zip blocks))) ∧
    ∃ text, DocContext.signature ⟨[], { lineWidth := 24 }, false⟩ openTypes = .ok text ∧
      DocContext.SpellsWithin ⟨[], { lineWidth := 24 }, false⟩ 12 none openTypes text := by
  have hparagraphs : ∀ p ∈ openParagraphs, p.isKnown = true := by decide
  have hspans : ∀ t ∈ openTypes, ∀ spans ∈ t.2, ∀ s ∈ spans, s.isKnown = true := by decide
  obtain ⟨⟨blocks, hblocks, -, hcomment⟩, hsignature⟩ :=
    DocContext.documentation_fits ⟨[], { lineWidth := 24 }, false⟩ hparagraphs hspans
  have hlines : openParagraphs.mapM (DocContext.paragraphLines ⟨[], { lineWidth := 24 }, false⟩) =
      .ok [["* Opening"], ["Opens a window,", "see", "'windowPresentWithTime'"], ["* at once"],
        ["[NULL] if there is", "none"]] := by decide +kernel
  obtain rfl := Except.ok.inj (hblocks.symm.trans hlines)
  exact ⟨⟨_, hlines, by decide +kernel, hcomment⟩, hsignature (by decide)⟩

end BindingGen
