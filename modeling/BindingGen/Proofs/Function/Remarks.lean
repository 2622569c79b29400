/-
# Remarks leave a signature as it is

A compiler skips a comment from its mark to the end of the line. What it reads of a signature are
the types with arrows between them, whether or not something is said of them: the text behind a
remark starts a new line, so that no remark swallows a type or an arrow. What it skips are the lines
that the documentation of the types fills, all of them from one column on.

Key definitions: `codeOf`, `commentOf`, `eraseComments`, `LaysOut`, `Continues`.
Key theorems: `codeOf_append_space`, `continues_remark`, `DocContext.continues_signatureFrom`,
`DocContext.signature_comments`.
-/
import BindingGen.Proofs.Function.Signature
import BindingGen.Proofs.Text.Words

namespace BindingGen

open Text

/-! ### Comments -/

/-- The part of a line in front of its comment. -/
def codeOf : List Char → List Char
  | [] => []
  | '-' :: '-' :: _ => []
  | c :: rest => c :: codeOf rest

/-- The comment of a line, from its mark to the end of the line; nothing if it has none. -/
def commentOf (line : List Char) : List Char := line.drop (codeOf line).length

/-- A text without its comments. -/
def eraseComments (text : String) : String :=
  "\n".intercalate ((linesOf text).map fun line => String.ofList (codeOf line))

/-- The comments of a text, in the order of its lines. -/
def commentsOf (text : String) : List String :=
  (((linesOf text).map commentOf).filter (· ≠ [])).map String.ofList

theorem codeOf_cons {c : Char} {rest : List Char} (h : ¬(c = '-' ∧ rest.head? = some '-')) :
    codeOf (c :: rest) = c :: codeOf rest := by
  cases rest with
  | nil => simp [codeOf]
  | cons d rest =>
    rw [codeOf]
    rintro tail rfl htail
    cases htail
    exact h ⟨rfl, rfl⟩

theorem codeOf_mark {comment : List Char} (h : "--".toList <+: comment) : codeOf comment = [] := by
  obtain ⟨rest, rfl⟩ := h
  rfl

theorem codeOf_eq_self {line : List Char} (h : ¬"--".toList <:+: line) : codeOf line = line := by
  fun_induction codeOf line with
  | case1 => rfl
  | case2 rest => exact absurd ⟨[], rest, rfl⟩ h
  | case3 c rest _ ih => rw [ih fun hrest => h (hrest.trans (List.suffix_cons c rest).isInfix)]

/-- The comment of a line is not looked for in front of a space. -/
theorem codeOf_append_space {code : List Char} (h : codeOf code = code) (rest : List Char) :
    codeOf (code ++ ' ' :: rest) = code ++ ' ' :: codeOf rest := by
  fun_induction codeOf code with
  | case1 => exact codeOf_cons (by simp)
  | case2 => cases h
  | case3 c code hmark ih =>
    have hcode : codeOf (c :: (code ++ ' ' :: rest)) = c :: codeOf (code ++ ' ' :: rest) := by
      refine codeOf_cons ?_
      rintro ⟨rfl, hhead⟩
      cases code with
      | nil => cases hhead
      | cons d code =>
        obtain rfl : d = '-' := by simpa using hhead
        exact hmark code rfl rfl
    rw [List.cons_append, hcode, ih (List.cons.inj h).2]
    rfl

theorem codeOf_spaces_append (n : Nat) (rest : List Char) :
    codeOf ((spaces n).toList ++ rest) = (spaces n).toList ++ codeOf rest := by
  simp only [spaces, String.toList_ofList]
  induction n with
  | zero => rfl
  | succ n ih =>
    rw [List.replicate_succ, List.cons_append, List.cons_append, codeOf_cons (by simp), ih]

/-! ### Lines with comments in one column -/

/-- The lines have the words outside of comments and the comments, each of which starts in the
column. -/
structure LaysOut (column : Nat) (lines : List (List Char)) (code : List (List Char))
    (comments : List String) : Prop where
  code : lines.flatMap (fun line => words (codeOf line)) = code
  comments : ((lines.map commentOf).filter (· ≠ [])).map String.ofList = comments
  aligned : ∀ line ∈ lines, commentOf line ≠ [] → (codeOf line).length = column

/-- The text goes on a line and adds the words and the comments; if the line is not `remarked`, it
has no comment yet. -/
def Continues (column : Nat) (remarked : Bool) (text : String) (code : List (List Char))
    (comments : List String) : Prop :=
  ∀ (line : String) (lineCode : List (List Char)) (lineComments : List String),
    '\n' ∉ line.toList → LaysOut column [line.toList] lineCode lineComments →
    (remarked = false → codeOf line.toList = line.toList) →
    LaysOut column (linesOf (line ++ text)) (lineCode ++ code) (lineComments ++ comments)

section LaysOut

variable {column : Nat} {lines others code later : List (List Char)}
  {comments further : List String}

theorem LaysOut.append (h : LaysOut column lines code comments)
    (hothers : LaysOut column others later further) :
    LaysOut column (lines ++ others) (code ++ later) (comments ++ further) where
  code := by rw [List.flatMap_append, h.code, hothers.code]
  comments := by
    rw [List.map_append, List.filter_append, List.map_append, h.comments, hothers.comments]
  aligned := by
    rw [List.forall_mem_append]
    exact ⟨h.aligned, hothers.aligned⟩

theorem laysOut_code {line : List Char} (h : codeOf line = line) :
    LaysOut column [line] (words line) [] := by
  have hnone : commentOf line = [] := by rw [commentOf, h, List.drop_length]
  exact ⟨by simp [h], by simp [hnone], by simp [hnone]⟩

theorem laysOut_comment {front : List Char} (comment : String) (padding : Nat)
    (hfront : codeOf front = front) (hmark : "--".toList <+: comment.toList)
    (hcolumn : front.length + 1 + padding = column) :
    LaysOut column [front ++ ' ' :: ((spaces padding).toList ++ comment.toList)] (words front)
      [comment] := by
  have hpadding : ∀ c ∈ (spaces padding).toList, isBlank c = true := by
    intro c hc
    rw [spaces, String.toList_ofList] at hc
    rw [List.eq_of_mem_replicate hc]
    decide
  have hcode : codeOf (front ++ ' ' :: ((spaces padding).toList ++ comment.toList)) =
      front ++ ' ' :: (spaces padding).toList := by
    rw [codeOf_append_space hfront, codeOf_spaces_append, codeOf_mark hmark, List.append_nil]
  have hcomment : commentOf (front ++ ' ' :: ((spaces padding).toList ++ comment.toList)) =
      comment.toList := by
    have hsplit : front ++ ' ' :: ((spaces padding).toList ++ comment.toList) =
        (front ++ ' ' :: (spaces padding).toList) ++ comment.toList := by simp
    rw [commentOf, hcode, hsplit, List.drop_left]
  have hne : comment.toList ≠ [] := fun hnil => by
    rw [hnil] at hmark
    exact absurd hmark (by decide)
  refine ⟨?_, ?_, ?_⟩
  · have hnone : words (spaces padding).toList = words [] := by
      rw [← words_blanks_append hpadding [], List.append_nil]
    rw [List.flatMap_singleton, hcode, words_append_cons (by decide), hnone]
    exact List.append_nil _
  · rw [List.map_singleton, hcomment]
    simp [hne]
  · rw [List.forall_mem_singleton, hcode]
    intro _
    rw [List.length_append, List.length_cons, spaces, String.toList_ofList, List.length_replicate]
    omega

variable {remarked : Bool} {text : String}

theorem continues_nil : Continues column remarked "" [] [] := by
  intro line lineCode lineComments hline hlaid _
  rwa [String.append_empty, linesOf_of_not_mem hline, List.append_nil, List.append_nil]

theorem continues_line {after : Bool} {first : String} (hbreak : '\n' ∉ first.toList)
    (hfirst : LaysOut column [first.toList] later further)
    (hcode : remarked = false → codeOf first.toList = first.toList)
    (h : Continues column remarked text code comments) :
    Continues column after ("\n" ++ first ++ text) (later ++ code) (further ++ comments) := by
  intro line lineCode lineComments hline hlaid _
  have hsplit : line ++ ("\n" ++ first ++ text) = line ++ "\n" ++ (first ++ text) := by
    simp only [String.append_assoc]
  rw [hsplit, linesOf_append_break, linesOf_of_not_mem hline]
  exact hlaid.append (h first later further hbreak hfirst hcode)

theorem continues_code {front : String} {bare : List Char} (hfront : front.toList = ' ' :: bare)
    (hcode : codeOf bare = bare) (hbreak : '\n' ∉ front.toList)
    (h : Continues column false text code comments) :
    Continues column false (front ++ text) (words front.toList ++ code) comments := by
  intro line lineCode lineComments hline hlaid hlineCode
  have hself : codeOf line.toList = line.toList := hlineCode rfl
  have hlong : (line ++ front).toList = line.toList ++ ' ' :: bare := by
    rw [String.toList_append, hfront]
  have hlongCode : codeOf (line ++ front).toList = (line ++ front).toList := by
    rw [hlong, codeOf_append_space hself, hcode]
  have hlongLaid : LaysOut column [(line ++ front).toList] (lineCode ++ words front.toList)
      lineComments := by
    have hwords : words (line ++ front).toList = lineCode ++ words front.toList := by
      have hblank : words front.toList = words bare := by
        rw [hfront]
        exact words_append_cons (a := []) (by decide) bare
      rw [hlong, words_append_cons (by decide), hblank, ← hlaid.code, List.flatMap_singleton, hself]
    have hnone : lineComments = [] := by
      rw [← hlaid.comments]
      simp [commentOf, hself]
    rw [← hwords, hnone]
    exact laysOut_code hlongCode
  have hrest := h (line ++ front) _ _ (by simp [hline, hbreak]) hlongLaid fun _ => hlongCode
  rwa [String.append_assoc, List.append_assoc] at hrest

theorem continues_comments (hpos : 0 < column) {texts : List String}
    (hbreak : ∀ line ∈ texts, '\n' ∉ line.toList)
    (h : Continues column true text code comments) :
    Continues column true
      (String.join (texts.map fun line => "\n" ++ spaces column ++ "-- " ++ line) ++ text)
      code (texts.map ("-- " ++ ·) ++ comments) := by
  obtain ⟨margin, rfl⟩ := Nat.exists_eq_add_one_of_ne_zero hpos.ne'
  induction texts with
  | nil => simpa using h
  | cons first texts ih =>
    rw [List.forall_mem_cons] at hbreak
    have hline : (spaces (margin + 1) ++ ("-- " ++ first)).toList =
        [] ++ ' ' :: ((spaces margin).toList ++ ("-- " ++ first).toList) := by
      simp [spaces, List.replicate_succ]
    have hlaid : LaysOut (margin + 1) [(spaces (margin + 1) ++ ("-- " ++ first)).toList] []
        ["-- " ++ first] := by
      rw [hline]
      refine laysOut_comment ("-- " ++ first) margin rfl ⟨' ' :: first.toList, by simp⟩ ?_
      rw [List.length_nil, Nat.zero_add, Nat.add_comm]
    have hnot : '\n' ∉ (spaces (margin + 1) ++ ("-- " ++ first)).toList := by
      simp [spaces, hbreak.1]
    have hrest : Continues (margin + 1) true _ _ _ :=
      continues_line hnot hlaid (by simp) (ih hbreak.2)
    simpa only [List.map_cons, String.join_cons, String.append_assoc, List.nil_append,
      List.singleton_append, List.cons_append] using hrest

/-- Code on a new line and a comment behind it that goes on with further lines. -/
theorem continues_remark {after : Bool} {front first : String} {padding : Nat} {rest : List String}
    (hfront : '\n' ∉ front.toList) (hcode : codeOf front.toList = front.toList)
    (hcolumn : front.length + 1 + padding = column)
    (hfirst : '\n' ∉ first.toList) (hrest : ∀ line ∈ rest, '\n' ∉ line.toList)
    (h : Continues column true text code comments) :
    Continues column after
      ("\n" ++ (front ++ spaces padding ++ " -- ^ " ++
        ("\n" ++ spaces column ++ "-- ").intercalate (first :: rest)) ++ text)
      (words front.toList ++ code)
      ((("-- ^ " ++ first) :: rest.map ("-- " ++ ·)) ++ comments) := by
  have hline : (front ++ spaces padding ++ " -- ^ " ++ first).toList =
      front.toList ++ ' ' :: ((spaces padding).toList ++ ("-- ^ " ++ first).toList) := by
    have hshift : ∀ l : List Char, List.replicate padding ' ' ++ ' ' :: l =
        ' ' :: (List.replicate padding ' ' ++ l) := fun l => by
      rw [← List.cons_append, ← List.replicate_succ, List.replicate_succ', List.append_assoc]
      rfl
    simp [spaces, hshift]
  have hlaid : LaysOut column [(front ++ spaces padding ++ " -- ^ " ++ first).toList]
      (words front.toList) ["-- ^ " ++ first] := by
    rw [hline]
    exact laysOut_comment ("-- ^ " ++ first) padding hcode ⟨" ^ ".toList ++ first.toList, by simp⟩
      (by rw [String.length_toList, hcolumn])
  have hnot : '\n' ∉ (front ++ spaces padding ++ " -- ^ " ++ first).toList := by
    simp [spaces, hfront, hfirst]
  have hlines : Continues column after _ _ _ :=
    continues_line hnot hlaid (by simp) (continues_comments (by omega) hrest h)
  rw [intercalate_cons_eq_append]
  simpa only [String.append_assoc, List.nil_append, List.cons_append] using hlines

end LaysOut

/-! ### Signatures -/

/-- A text on one line without the mark of a comment. -/
def IsCodeLine (text : String) : Prop := '\n' ∉ text.toList ∧ ¬"--".toList <:+: text.toList

instance (text : String) : Decidable (IsCodeLine text) :=
  inferInstanceAs (Decidable ('\n' ∉ text.toList ∧ ¬"--".toList <:+: text.toList))

theorem IsCodeLine.codeOf_append {type : String} (h : IsCodeLine type) (lead : String)
    (hlead : codeOf lead.toList = lead.toList) :
    codeOf (lead ++ " " ++ type).toList = (lead ++ " " ++ type).toList := by
  have htext : (lead ++ " " ++ type).toList = lead.toList ++ ' ' :: type.toList := by simp
  rw [htext, codeOf_append_space hlead, codeOf_eq_self h.2]

theorem words_append_space (lead type : String) :
    words (lead ++ " " ++ type).toList = words lead.toList ++ words type.toList := by
  have htext : (lead ++ " " ++ type).toList = lead.toList ++ ' ' :: type.toList := by simp
  rw [htext, words_append_cons (by decide)]

namespace DocContext

/-- The comments that the lines of a type's documentation are. -/
def markedLines : List String → List String
  | [] => []
  | first :: rest => ("-- ^ " ++ first) :: rest.map ("-- " ++ ·)

/-- The comments behind a type. -/
def remarks (ctx : DocContext) (column : Nat) : Option (List Span) → Except Fault (List String)
  | none => .ok []
  | some doc => do
    return markedLines (← ctx.wrapSpans doc (ctx.settings.lineWidth - column - 8))

variable {ctx : DocContext}

theorem exists_cons_of_wrapSpans {doc : List Span} {width : Int} {lines : List String}
    (h : ctx.wrapSpans doc width = .ok lines) :
    ∃ first rest, lines = first :: rest ∧ '\n' ∉ first.toList ∧
      ∀ line ∈ rest, '\n' ∉ line.toList := by
  obtain ⟨words, -, hwrap⟩ := bind_eq_ok_iff.mp h
  have hbreak : ∀ line ∈ lines, '\n' ∉ line.toList := fun line hline =>
    not_mem_break_of_mem_wrapWords hwrap hline
  cases lines with
  | cons first rest =>
    rw [List.forall_mem_cons] at hbreak
    exact ⟨first, rest, rfl, hbreak⟩
  | nil =>
    unfold wrapWords at hwrap
    split_ifs at hwrap
    · cases hwrap
    · split at hwrap <;> cases hwrap

/-- A documented type on a new line, behind four columns. -/
theorem continues_documentedType {column : Nat} {lead type typeText text : String}
    {doc : List Span} {code : List (List Char)} {comments : List String}
    (h : ctx.documentedType column type (some doc) = .ok typeText)
    (hlead : lead.length = 4) (hbreak : '\n' ∉ (lead ++ type).toList)
    (hcode : codeOf (lead ++ type).toList = (lead ++ type).toList) (hfits : type.length ≤ column)
    (htext : Continues (column + 5) true text code comments) :
    ∃ marked, ctx.remarks column (some doc) = .ok marked ∧ ∀ after,
      Continues (column + 5) after ("\n" ++ lead ++ typeText ++ text)
        (Text.words (lead ++ type).toList ++ code) (marked ++ comments) := by
  obtain ⟨lines, hlines, h⟩ := bind_eq_ok_iff.mp h
  obtain ⟨first, rest, rfl, hfirst, hrest⟩ := exists_cons_of_wrapSpans hlines
  refine ⟨markedLines (first :: rest), bind_eq_ok_iff.mpr ⟨_, hlines, rfl⟩, fun after => ?_⟩
  have hcolumn : (lead ++ type).length + 1 + (column - type.length) = column + 5 := by
    rw [String.length_append]
    omega
  have hremark : Continues (column + 5) after _ _ _ :=
    continues_remark hbreak hcode hcolumn hfirst hrest htext
  rw [← Except.ok.inj h, markedLines]
  simpa only [String.append_assoc] using hremark

/-- A type without documentation behind an arrow, on a new line if the line before has a comment. -/
theorem continues_bareType {column : Nat} {type text : String} {code : List (List Char)}
    {comments : List String} (h : IsCodeLine type)
    (htext : Continues column false text code comments) (remarked : Bool) :
    Continues column remarked
      (typeLead (some remarked).isNone ((some remarked).getD false)
        (none : Option (List Span)).isSome ++ type ++ text)
      (Text.words (" -> " ++ type).toList ++ code) comments := by
  have hbare : codeOf (" -> " ++ type).toList = (" -> " ++ type).toList :=
    h.codeOf_append " ->" rfl
  have hbreak : '\n' ∉ (" -> " ++ type).toList := by simp [h.1]
  cases remarked with
  | true =>
    have hlead : typeLead (some true).isNone ((some true).getD false)
        (none : Option (List Span)).isSome = "\n" ++ " -> " := rfl
    rw [hlead]
    have hline : Continues column true ("\n" ++ (" -> " ++ type) ++ text) _ _ :=
      continues_line hbreak (laysOut_code hbare) (fun _ => hbare) htext
    simpa only [String.append_assoc, List.nil_append] using hline
  | false =>
    have hlead : typeLead (some false).isNone ((some false).getD false)
        (none : Option (List Span)).isSome = " -> " := rfl
    have hspace : (" -> " ++ type).toList = ' ' :: ("->" ++ " " ++ type).toList := by simp
    rw [hlead]
    exact continues_code hspace (h.codeOf_append "->" rfl) hbreak htext

/-- Behind a type, a signature goes on with an arrow and a type for each of the further types. -/
theorem continues_signatureFrom {column : Nat} {remarked : Bool}
    {types : List (String × Option (List Span))} {text : String}
    (h : ctx.signatureFrom column (some remarked) types = .ok text)
    (hcode : ∀ t ∈ types, IsCodeLine t.1) (hfits : ∀ t ∈ types, t.1.length ≤ column) :
    ∃ comments, types.mapM (fun t => ctx.remarks column t.2) = .ok comments ∧
      Continues (column + 5) remarked text
        (types.flatMap fun t => "->".toList :: Text.words t.1.toList) comments.flatten := by
  induction types generalizing remarked text with
  | nil =>
    cases h
    exact ⟨[], rfl, continues_nil⟩
  | cons entry rest ih =>
    obtain ⟨type, doc⟩ := entry
    rw [List.forall_mem_cons] at hcode hfits
    obtain ⟨typeText, htype, h⟩ := bind_eq_ok_iff.mp h
    obtain ⟨others, hothers, h⟩ := bind_eq_ok_iff.mp h
    obtain ⟨comments, hcomments, hrest⟩ := ih hothers hcode.2 hfits.2
    rw [← Except.ok.inj h, List.flatMap_cons]
    have harrow : Text.words (" -> " ++ type).toList = "->".toList :: Text.words type.toList :=
      words_append_space " ->" type
    rw [← harrow]
    cases doc with
    | some doc =>
      have hbare : codeOf (" -> " ++ type).toList = (" -> " ++ type).toList :=
        hcode.1.codeOf_append " ->" rfl
      have hbreak : '\n' ∉ (" -> " ++ type).toList := by simp [hcode.1.1]
      obtain ⟨marked, hmarked, hcontinues⟩ :=
        continues_documentedType htype rfl hbreak hbare hfits.1 hrest
      refine ⟨marked :: comments, ?_, ?_⟩
      · rw [List.mapM_cons, hmarked, hcomments]
        rfl
      · have hlead : typeLead (some remarked).isNone ((some remarked).getD false)
            (some doc).isSome = "\n" ++ " -> " := by cases remarked <;> rfl
        rw [hlead, List.flatten_cons]
        exact hcontinues remarked
    | none =>
      cases htype
      refine ⟨[] :: comments, ?_, ?_⟩
      · rw [List.mapM_cons, hcomments]
        rfl
      · rw [List.flatten_cons, List.nil_append]
        exact continues_bareType hcode.1 hrest remarked

/-- A signature starts with its first type, on a line of its own if it has documentation. -/
theorem laysOut_signatureFrom {column : Nat} {type text : String} {doc : Option (List Span)}
    {rest : List (String × Option (List Span))}
    (h : ctx.signatureFrom column none ((type, doc) :: rest) = .ok text)
    (hcode : ∀ t ∈ (type, doc) :: rest, IsCodeLine t.1)
    (hfits : ∀ t ∈ (type, doc) :: rest, t.1.length ≤ column) :
    ∃ comments, ((type, doc) :: rest).mapM (fun t => ctx.remarks column t.2) = .ok comments ∧
      LaysOut (column + 5) (linesOf text)
        (Text.words type.toList ++ rest.flatMap fun t => "->".toList :: Text.words t.1.toList)
        comments.flatten := by
  rw [List.forall_mem_cons] at hcode hfits
  obtain ⟨typeText, htype, h⟩ := bind_eq_ok_iff.mp h
  obtain ⟨others, hothers, h⟩ := bind_eq_ok_iff.mp h
  obtain ⟨comments, hcomments, hrest⟩ := continues_signatureFrom hothers hcode.2 hfits.2
  rw [← Except.ok.inj h]
  have hself : codeOf type.toList = type.toList := codeOf_eq_self hcode.1.2
  cases doc with
  | none =>
    cases htype
    have hlead : typeLead (none : Option Bool).isNone ((none : Option Bool).getD false)
        (none : Option (List Span)).isSome = "" := rfl
    refine ⟨[] :: comments, ?_, ?_⟩
    · rw [List.mapM_cons, hcomments]
      rfl
    · rw [hlead, String.empty_append]
      exact hrest type _ [] hcode.1.1 (laysOut_code hself) fun _ => hself
  | some doc =>
    have hlead : typeLead (none : Option Bool).isNone ((none : Option Bool).getD false)
        (some doc).isSome = "\n" ++ "    " := rfl
    have hindent : Text.words ("    " ++ type).toList = Text.words type.toList :=
      words_append_space "   " type
    have hbare : codeOf ("    " ++ type).toList = ("    " ++ type).toList :=
      hcode.1.codeOf_append "   " rfl
    obtain ⟨marked, hmarked, hcontinues⟩ :=
      continues_documentedType htype rfl (by simp [hcode.1.1]) hbare hfits.1 hrest
    refine ⟨marked :: comments, ?_, ?_⟩
    · rw [List.mapM_cons, hmarked, hcomments]
      rfl
    · have hline := hcontinues false "" [] [] (by simp) (laysOut_code rfl) fun _ => rfl
      rwa [hindent, String.empty_append, ← hlead, List.nil_append, List.nil_append] at hline

theorem length_le_typeColumn {types : List String} {type : String} (h : type ∈ types) :
    type.length ≤ typeColumn types := by
  induction types with
  | nil => cases h
  | cons first types ih =>
    rw [typeColumn, List.map_cons, List.foldr_cons]
    rcases List.mem_cons.mp h with rfl | h
    · exact Nat.le_max_left _ _
    · exact (ih h).trans (Nat.le_max_right _ _)

/-- The words of a signature are those of its types with arrows between them, and its comments are
those of the types. -/
theorem laysOut_signature {types : List (String × Option (List Span))} {text : String}
    (h : ctx.signature types = .ok text) (hcode : ∀ t ∈ types, IsCodeLine t.1) :
    ∃ comments,
      types.mapM (fun t => ctx.remarks (typeColumn (types.map (·.1))) t.2) = .ok comments ∧
      LaysOut (typeColumn (types.map (·.1)) + 5) (linesOf text)
        (Text.words (" -> ".intercalate (types.map (·.1))).toList) comments.flatten := by
  have hfits : ∀ t ∈ types, t.1.length ≤ typeColumn (types.map (·.1)) := fun t ht =>
    length_le_typeColumn (List.mem_map_of_mem ht)
  cases types with
  | nil => cases h
  | cons entry rest =>
    obtain ⟨comments, hcomments, hlaid⟩ := laysOut_signatureFrom h hcode hfits
    refine ⟨comments, hcomments, ?_⟩
    rwa [List.map_cons, words_arrows, List.flatMap_map]

theorem signatureFrom_bare (ctx : DocContext) (column : Nat) (types : List String) :
    ctx.signatureFrom column (some false) (types.map fun t => (t, none)) =
      .ok (String.join (types.map (" -> " ++ ·))) := by
  induction types with
  | nil => rfl
  | cons type types ih =>
    refine bind_eq_ok_iff.mpr ⟨type, rfl, bind_eq_ok_iff.mpr ⟨_, ih, ?_⟩⟩
    rw [List.map_cons, String.join_cons]
    rfl

theorem signature_bare (ctx : DocContext) {types : List String} (hne : types ≠ []) :
    ctx.signature (types.map fun t => (t, none)) = .ok (" -> ".intercalate types) := by
  obtain ⟨first, others, rfl⟩ := List.exists_cons_of_ne_nil hne
  rw [intercalate_cons_eq_append]
  have hothers := ctx.signatureFrom_bare (typeColumn (first :: others)) others
  refine bind_eq_ok_iff.mpr ⟨first, rfl, bind_eq_ok_iff.mpr ⟨_, ?_, rfl⟩⟩
  simpa [Function.comp_def] using hothers

/-- **Remarks leave a signature as it is.** The signature of types without line feeds and without
the mark of a comment is written. Its comments are the lines that the documentation fills, and all
of them start five columns behind the longest type. Without them, and but for its blanks, it is the
types with arrows between them, which is the signature without documentation. -/
theorem signature_comments (ctx : DocContext) {types : List (String × Option (List Span))}
    (hne : types ≠ []) (hcode : ∀ t ∈ types, IsCodeLine t.1)
    (hknown : ∀ t ∈ types, ∀ spans ∈ t.2, ∀ s ∈ spans, s.isKnown = true) :
    ∃ text comments, ctx.signature types = .ok text ∧
      types.mapM (fun t => ctx.remarks (typeColumn (types.map (·.1))) t.2) = .ok comments ∧
      commentsOf text = comments.flatten ∧
      (∀ line ∈ linesOf text, commentOf line ≠ [] →
        (codeOf line).length = typeColumn (types.map (·.1)) + 5) ∧
      ctx.signature (types.map fun t => (t.1, none)) = .ok (" -> ".intercalate (types.map (·.1))) ∧
      squeeze (eraseComments text) = squeeze (" -> ".intercalate (types.map (·.1))) ∧
      ((∀ t ∈ types, IsTidy t.1) →
        squeeze (eraseComments text) = " -> ".intercalate (types.map (·.1))) := by
  obtain ⟨text, htext⟩ := exists_ok_of_never (ctx.failsOnly_signature hne hknown)
  obtain ⟨comments, hcomments, hlaid⟩ := laysOut_signature htext hcode
  have hwords : Text.words (eraseComments text).toList =
      Text.words (" -> ".intercalate (types.map (·.1))).toList := by
    have hlines : (eraseComments text).toList = ['\n'].intercalate ((linesOf text).map codeOf) := by
      rw [eraseComments, String.toList_intercalate, List.map_map]
      simp [Function.comp_def]
    rw [hlines, words_intercalate (by decide), List.flatMap_map]
    exact hlaid.code
  have hsqueeze : squeeze (eraseComments text) =
      squeeze (" -> ".intercalate (types.map (·.1))) := by
    rw [squeeze, hwords, squeeze]
  have hbare : ctx.signature ((types.map (·.1)).map fun t => (t, none)) =
      .ok (" -> ".intercalate (types.map (·.1))) := ctx.signature_bare (by simpa using hne)
  rw [List.map_map] at hbare
  refine ⟨text, comments, htext, hcomments, hlaid.comments, hlaid.aligned, hbare, hsqueeze, ?_⟩
  intro htidy
  rw [hsqueeze, squeeze_arrows]
  simpa using htidy

end DocContext

/-- The types of a function that opens a window; two of them have documentation, and that of the
parent has a line feed and fills two lines. -/
def openTypes : List (String × Option (List Span)) :=
  [("Bool", none), ("Maybe Window", some [.arg "parent", .text " - the window\nit belongs to"]),
    ("String", none), ("IO ()", some [.text "returns nothing"])]

/-- The comments of the window's parent and of the result start in one column, and the types
without them are those of the function. -/
theorem signature_comments_openTypes :
    ∃ text, DocContext.signature ⟨[], { lineWidth := 42 }, false⟩ openTypes = .ok text ∧
      commentsOf text =
        ["-- ^ @parent@ - the", "-- window it belongs to", "-- ^ returns nothing"] ∧
      (∀ line ∈ linesOf text, commentOf line ≠ [] → (codeOf line).length = 17) ∧
      squeeze (eraseComments text) = "Bool -> Maybe Window -> String -> IO ()" := by
  have hcode : ∀ t ∈ openTypes, IsCodeLine t.1 := by decide +kernel
  have hknown : ∀ t ∈ openTypes, ∀ spans ∈ t.2, ∀ s ∈ spans, s.isKnown = true := by decide
  obtain ⟨text, comments, htext, hcomments, hfilled, haligned, -, -, htidy⟩ :=
    DocContext.signature_comments ⟨[], { lineWidth := 42 }, false⟩ (by decide) hcode hknown
  have hremarks : openTypes.mapM (fun t => DocContext.remarks ⟨[], { lineWidth := 42 }, false⟩
      (typeColumn (openTypes.map (·.1))) t.2) =
    .ok [[], ["-- ^ @parent@ - the", "-- window it belongs to"], [], ["-- ^ returns nothing"]] := by
    decide +kernel
  obtain rfl := Except.ok.inj (hcomments.symm.trans hremarks)
  exact ⟨text, htext, hfilled, haligned, htidy (by decide +kernel)⟩

end BindingGen
