/-
# Spellings of one type

How many blanks stand in front of a star, which blanks stand anywhere else, blanks at the ends, and
a dash in place of the blank behind `const` make no difference to the type that a spelling stands
for: such spellings have one normal form, and no others do. Spellings of one normal form are handed
over in the same way as a parameter, a result, a property and a signal argument, or refused with the
spelling as it is given.

Key definitions: `Respelled`, `Alike`, `SameAnswer`.
Key theorems: `Respelled.normalForm_eq`, `normalForm_eq_iff`, `marshaled_by_normalize`.
-/
import BindingGen.Marshal.Parameter
import BindingGen.Marshal.Result
import BindingGen.Marshal.Value
import BindingGen.Proofs.CType.NormalForm

namespace BindingGen

open Text

namespace CType

variable {a b blanks text other : List Char} {c : Char}

/-- The texts differ in blanks where they do not matter, or in a dash behind `const`. -/
inductive Respelled : List Char → List Char → Prop
  | star (a b : List Char) {blanks : List Char} (h : ∀ c ∈ blanks, isBlank c = true) :
      Respelled (a ++ (blanks ++ '*' :: b)) (a ++ '*' :: b)
  | gap (a b : List Char) {blanks : List Char} (hne : blanks ≠ [])
      (h : ∀ c ∈ blanks, isBlank c = true) : Respelled (a ++ (blanks ++ b)) (a ++ ' ' :: b)
  | start (b : List Char) {blanks : List Char} (h : ∀ c ∈ blanks, isBlank c = true) :
      Respelled (blanks ++ b) b
  | ends (a : List Char) {blanks : List Char} (h : ∀ c ∈ blanks, isBlank c = true) :
      Respelled (a ++ blanks) a
  | dash (a b : List Char) : Respelled (a ++ ("const-".toList ++ b)) (a ++ ("const ".toList ++ b))

theorem isBlank_space : isBlank ' ' = true := by decide

theorem forall_blank_space : ∀ c ∈ [' '], isBlank c = true :=
  List.forall_mem_singleton.mpr isBlank_space

/-! ### Tidied texts -/

theorem tidy_append_congr (a : List Char) (h : tidy text = tidy other) :
    tidy (a ++ text) = tidy (a ++ other) := by
  induction a with
  | nil => exact h
  | cons c a ih =>
    rw [List.cons_append, List.cons_append]
    cases hc : isBlank c with
    | false => rw [tidy_cons_of_visible hc, tidy_cons_of_visible hc, ih]
    | true => rw [tidy_cons_of_blank hc, tidy_cons_of_blank hc, ih]

theorem tidy_blanks_star (h : ∀ c ∈ blanks, isBlank c = true) (b : List Char) :
    tidy (blanks ++ '*' :: b) = tidy ('*' :: b) := by
  induction blanks with
  | nil => rfl
  | cons c blanks ih =>
    rw [List.forall_mem_cons] at h
    have hstar : tidy ('*' :: b) = '*' :: tidy b := tidy_cons_of_visible (by decide) b
    rw [List.cons_append, tidy_cons_of_blank h.1, ih h.2, hstar, if_pos (by simp [absorbs])]

theorem tidy_blanks_append (hne : blanks ≠ []) (h : ∀ c ∈ blanks, isBlank c = true)
    (b : List Char) : tidy (blanks ++ b) = tidy (' ' :: b) := by
  induction blanks with
  | nil => exact absurd rfl hne
  | cons c blanks ih =>
    rw [List.forall_mem_cons] at h
    cases blanks with
    | nil => rw [List.singleton_append, tidy_cons_of_blank h.1, tidy_cons_of_blank isBlank_space]
    | cons d blanks =>
      rw [List.cons_append, tidy_cons_of_blank h.1, ih (by simp) h.2]
      -- a tidied text that a space stands in front of takes up another one
      refine if_pos ?_
      rw [tidy_cons_of_blank isBlank_space]
      split
      · assumption
      · rfl

/-! ### Stripped texts -/

theorem stripRight_visible_cons (hc : isBlank c = false) (b : List Char) :
    stripRight (c :: b) = c :: stripRight b := by
  have hself : stripRight [c] = [c] := stripRight_eq_self_iff.mpr (by simpa [EndsVisible] using hc)
  have happend := stripRight_append [c] b
  rw [List.singleton_append] at happend
  rw [happend]
  split
  · rename_i hblank
    rw [hself, hblank]
  · rfl

theorem strip_append (a b : List Char) :
    strip (a ++ b) =
      if a.dropWhile isBlank = [] then strip b else stripRight (a.dropWhile isBlank ++ b) := by
  rw [strip, List.dropWhile_append]
  by_cases ha : a.dropWhile isBlank = []
  · rw [if_pos ha, if_pos (List.isEmpty_iff.mpr ha)]
    rfl
  · rw [if_neg ha, if_neg (fun hempty => ha (List.isEmpty_iff.mp hempty))]

theorem tidy_strip_star (h : ∀ c ∈ blanks, isBlank c = true) (a b : List Char) :
    tidy (strip (a ++ (blanks ++ '*' :: b))) = tidy (strip (a ++ '*' :: b)) := by
  have hright : stripRight ('*' :: b) = '*' :: stripRight b :=
    stripRight_visible_cons (by decide) b
  have hends (x : List Char) : stripRight (x ++ '*' :: b) = x ++ '*' :: stripRight b := by
    rw [stripRight_append, hright, if_neg (by simp)]
  rw [strip_append a (blanks ++ '*' :: b), strip_append a ('*' :: b)]
  by_cases ha : a.dropWhile isBlank = []
  · rw [if_pos ha, if_pos ha, strip, strip, List.dropWhile_append_of_pos h]
  · rw [if_neg ha, if_neg ha, ← List.append_assoc, hends, hends, List.append_assoc]
    exact tidy_append_congr _ (tidy_blanks_star h _)

theorem tidy_strip_gap (hne : blanks ≠ []) (h : ∀ c ∈ blanks, isBlank c = true)
    (a b : List Char) : tidy (strip (a ++ (blanks ++ b))) = tidy (strip (a ++ ' ' :: b)) := by
  have hends {w : List Char} (hw : ∀ c ∈ w, isBlank c = true) (x : List Char) :
      stripRight (x ++ (w ++ b)) =
        if stripRight b = [] then stripRight x else x ++ (w ++ stripRight b) := by
    rw [stripRight_append, stripRight_append w]
    by_cases hb : stripRight b = []
    · rw [if_pos hb, if_pos hb, if_pos (stripRight_eq_nil_iff.mpr hw)]
    · rw [if_neg hb, if_neg hb, if_neg (by simp [hb])]
  rw [← List.singleton_append (x := ' '), strip_append a (blanks ++ b),
    strip_append a ([' '] ++ b)]
  by_cases ha : a.dropWhile isBlank = []
  · rw [if_pos ha, if_pos ha, strip, strip, List.dropWhile_append_of_pos h,
      List.dropWhile_append_of_pos forall_blank_space]
  · rw [if_neg ha, if_neg ha, hends h, hends forall_blank_space]
    split
    · rfl
    · exact tidy_append_congr _ (tidy_blanks_append hne h _)

theorem strip_append_blanks (h : ∀ c ∈ blanks, isBlank c = true) (a : List Char) :
    strip (a ++ blanks) = strip a := by
  have hself := strip_append a []
  rw [List.append_nil] at hself
  rw [strip_append, hself]
  by_cases ha : a.dropWhile isBlank = []
  · rw [if_pos ha, if_pos ha, strip, List.dropWhile_eq_nil_iff.mpr h]
    rfl
  · rw [if_neg ha, if_neg ha, stripRight_append, if_pos (stripRight_eq_nil_iff.mpr h),
      List.append_nil]

/-! ### Replaced dashes -/

theorem undash_append_cons (hc : c ∉ "onst-".toList) (a b : List Char) :
    undash (a ++ c :: b) = undash a ++ undash (c :: b) :=
  replaceAll_append a (by simpa using hc)

theorem undash_cons (hc : c ≠ 'c') (b : List Char) : undash (c :: b) = c :: undash b :=
  replaceAll_cons_of_ne hc

theorem ne_of_isBlank (hc : isBlank c = true) {d : Char} (hd : isBlank d = false) : c ≠ d := by
  rintro rfl
  rw [hc] at hd
  cases hd

theorem undash_blanks_append (h : ∀ c ∈ blanks, isBlank c = true) (b : List Char) :
    undash (blanks ++ b) = blanks ++ undash b := by
  induction blanks with
  | nil => rfl
  | cons c blanks ih =>
    rw [List.forall_mem_cons] at h
    rw [List.cons_append, undash_cons (ne_of_isBlank h.1 (by decide)), ih h.2, List.cons_append]

theorem undash_append_blanks_append (hne : blanks ≠ []) (h : ∀ c ∈ blanks, isBlank c = true)
    (a b : List Char) : undash (a ++ (blanks ++ b)) = undash a ++ (blanks ++ undash b) := by
  rw [← undash_blanks_append h]
  cases blanks with
  | nil => exact absurd rfl hne
  | cons c blanks =>
    have hvisible : IsInner "onst-".toList := by decide
    refine undash_append_cons (fun hmem => ?_) a (blanks ++ b)
    exact ne_of_isBlank (h c List.mem_cons_self) (hvisible c hmem).1 rfl

theorem undash_append_star (a b : List Char) :
    undash (a ++ '*' :: b) = undash a ++ '*' :: undash b := by
  rw [undash_append_cons (by decide), undash_cons (by decide)]

theorem undash_dash_append (a b : List Char) :
    undash (a ++ ("const-".toList ++ b)) = undash a ++ ("const ".toList ++ undash b) :=
  replaceAll_append_self (by decide : 'c' ∉ "onst-".toList) a b

theorem undash_space_append (a b : List Char) :
    undash (a ++ ("const ".toList ++ b)) = undash a ++ ("const ".toList ++ undash b) := by
  have hsplit (rest : List Char) : "const ".toList ++ rest = "const".toList ++ ' ' :: rest := rfl
  have hconst : undash "const".toList = "const".toList := by decide
  have hfirst : undash (a ++ ("const".toList ++ ' ' :: b)) =
      undash a ++ undash ("const".toList ++ ' ' :: b) :=
    undash_append_cons (by decide : 'c' ∉ "onst-".toList) a _
  rw [hsplit, hsplit, hfirst, undash_append_cons (by decide : ' ' ∉ "onst-".toList), hconst,
    undash_cons (by decide)]

/-! ### One normal form -/

theorem Respelled.normalForm_eq (h : Respelled text other) :
    normalForm text = normalForm other := by
  rw [normalForm_eq_tidy, normalForm_eq_tidy]
  cases h with
  | @star a b blanks h =>
    rw [undash_append_star]
    cases blanks with
    | nil => rw [List.nil_append, undash_append_star]
    | cons c blanks =>
      have hstar := undash_cons (c := '*') (by decide) b
      rw [undash_append_blanks_append (by simp) h, hstar, tidy_strip_star h]
  | @gap a b blanks hne h =>
    have hspace := undash_append_blanks_append (by simp) forall_blank_space a b
    rw [List.singleton_append, List.singleton_append] at hspace
    rw [undash_append_blanks_append hne h, hspace, tidy_strip_gap hne h]
  | @start b blanks h =>
    rw [undash_blanks_append h, strip, List.dropWhile_append_of_pos h]
    rfl
  | @ends a blanks h =>
    cases blanks with
    | nil => rw [List.append_nil]
    | cons c blanks =>
      have happend := undash_append_blanks_append (by simp) h other []
      have hnil : undash [] = [] := rfl
      rw [hnil, List.append_nil] at happend
      rw [happend, strip_append_blanks h]
  | dash a b => rw [undash_dash_append, undash_space_append]

/-! ### Respelled step by step -/

/-- The texts differ in any number of such ways. -/
def Alike : List Char → List Char → Prop := Relation.EqvGen Respelled

theorem Respelled.alike (h : Respelled text other) : Alike text other := .rel _ _ h

namespace Alike

@[refl] theorem refl (text : List Char) : Alike text text := Relation.EqvGen.refl text

@[symm] theorem symm (h : Alike text other) : Alike other text := Relation.EqvGen.symm _ _ h

@[trans] theorem trans {last : List Char} (h : Alike text other) (hnext : Alike other last) :
    Alike text last := Relation.EqvGen.trans _ _ _ h hnext

/-- What does not tell texts apart that differ in one way does not tell these apart. -/
theorem apply_eq {α : Type} {f : List Char → α}
    (hf : ∀ {text other}, Respelled text other → f text = f other) (h : Alike text other) :
    f text = f other := by
  induction h with
  | rel text other h => exact hf h
  | refl text => rfl
  | symm text other h ih => exact ih.symm
  | trans text other last h hnext ih ihnext => exact ih.trans ihnext

end Alike

/-- The dashes of a text are replaced one after the other, behind what is done already. -/
theorem alike_undash (front text : List Char) : Alike (front ++ text) (front ++ undash text) := by
  -- what is done already stands in front, and the rest of a replaced dash is skipped
  have hfrom : ∀ skip front, Alike (front ++ text.drop skip)
      (front ++ replaceFrom 'c' "onst-".toList "const ".toList skip text) := by
    induction text with
    | nil =>
      intro skip front
      rw [replaceFrom_nil, List.drop_nil]
    | cons c rest ih =>
      intro skip front
      cases skip with
      | succ skip =>
        rw [replaceFrom_succ, List.drop_succ_cons]
        exact ih skip front
      | zero =>
        rw [List.drop_zero]
        by_cases hmatch : c = 'c' ∧ "onst-".toList <+: rest
        · obtain ⟨tail, htail⟩ := hmatch.2
          have hdash := (Respelled.dash front tail).alike
          have hrest := ih "onst-".toList.length (front ++ "const ".toList)
          rw [← htail, List.drop_left, htail, List.append_assoc, List.append_assoc] at hrest
          rw [replaceFrom_of_match hmatch, hmatch.1]
          refine Alike.trans ?_ (hdash.trans hrest)
          rw [← htail]
          rfl
        · have hrest := ih 0 (front ++ [c])
          rw [List.append_assoc, List.append_assoc] at hrest
          rw [replaceFrom_of_not_match hmatch]
          exact hrest
  exact hfrom 0 front

theorem alike_strip (text : List Char) : Alike text (strip text) := by
  have hfront : ∀ c ∈ text.takeWhile isBlank, isBlank c = true := fun c => List.mem_takeWhile_imp
  have hstart := Respelled.start (text.dropWhile isBlank) hfront
  rw [List.takeWhile_append_dropWhile] at hstart
  have hbehind : ∀ c ∈ takeEndWhile isBlank (text.dropWhile isBlank), isBlank c = true :=
    fun c => of_mem_takeEndWhile
  have hends := Respelled.ends (strip text) hbehind
  rw [strip, stripRight, dropEndWhile_append_takeEndWhile] at hends
  exact hstart.alike.trans hends.alike

theorem alike_tidy (front text : List Char) : Alike (front ++ text) (front ++ tidy text) := by
  induction text generalizing front with
  | nil => rfl
  | cons c rest ih =>
    have hrest := ih (front ++ [c])
    rw [List.append_assoc, List.append_assoc] at hrest
    refine hrest.trans ?_
    cases hc : isBlank c with
    | false =>
      rw [tidy_cons_of_visible hc]
      rfl
    | true =>
      have hblanks : ∀ d ∈ [c], isBlank d = true := by simpa using hc
      rw [tidy_cons_of_blank hc]
      by_cases habsorbs : absorbs (tidy rest) = true
      · rw [if_pos habsorbs]
        obtain ⟨d, hd, hspecial⟩ := exists_of_absorbs habsorbs
        obtain ⟨more, hmore⟩ := List.head?_eq_some_iff.mp hd
        rw [hmore]
        rcases hspecial with hblank | rfl
        -- two blanks and the second of them stand for one space alike
        · have hboth : ∀ e ∈ [c, d], isBlank e = true := by simp [hc, hblank]
          have hlast : ∀ e ∈ [d], isBlank e = true := by simpa using hblank
          exact (Respelled.gap front more (by simp) hboth).alike.trans
            (Respelled.gap front more (by simp) hlast).alike.symm
        · exact (Respelled.star front more hblanks).alike
      · rw [if_neg habsorbs]
        exact (Respelled.gap front _ (by simp) hblanks).alike

theorem alike_normalForm (text : List Char) : Alike text (normalForm text) := by
  rw [normalForm_eq_tidy]
  exact (alike_undash [] text).trans ((alike_strip _).trans (alike_tidy [] _))

/-- Texts have one normal form if they differ in these ways only, any number of them. -/
theorem normalForm_eq_iff : normalForm text = normalForm other ↔ Alike text other := by
  constructor
  · intro h
    refine (alike_normalForm text).trans ?_
    rw [h]
    exact (alike_normalForm other).symm
  · exact Alike.apply_eq Respelled.normalForm_eq

/-! ### Answers -/

section Answer

variable {α : Type} {owner t u : String} {role : Role}

/-- What a type is handed over as, or the refusal of its spelling. -/
def orRefuse (owner spelled : String) (role : Role) : Option α → Except Refusal α
  | some marshaled => .ok marshaled
  | none => .error (.unmarshalable owner spelled role)

/-- One value for two spellings, or the refusals of the two. -/
inductive SameAnswer (owner t u : String) (role : Role) :
    Except Refusal α → Except Refusal α → Prop
  | value (v : α) : SameAnswer owner t u role (.ok v) (.ok v)
  | refused : SameAnswer owner t u role (.error (.unmarshalable owner t role))
      (.error (.unmarshalable owner u role))

theorem marshalParameter_eq (symbols : SymbolTable) (settings : Settings)
    (function name spelled : String) :
    marshalParameter symbols settings function name spelled =
      orRefuse function spelled .parameter
        (marshalType? symbols settings function name (.parse spelled)) := by
  unfold marshalParameter
  cases marshalType? symbols settings function name (.parse spelled) <;> rfl

theorem marshalResult_eq (symbols : SymbolTable) (settings : Settings) (function : String)
    (isConstructor : Bool) (spelled : String) :
    marshalResult symbols settings function isConstructor spelled =
      orRefuse function spelled .result
        (marshalResultType? symbols settings function isConstructor (.parse spelled)) := by
  unfold marshalResult
  cases marshalResultType? symbols settings function isConstructor (.parse spelled) <;> rfl

theorem marshalProperty_eq (symbols : SymbolTable) (settings : Settings)
    (owner spelled : String) :
    marshalProperty symbols settings owner spelled =
      orRefuse owner spelled .property
        (marshalPropertyType? symbols settings (.parse spelled)) := by
  unfold marshalProperty
  cases marshalPropertyType? symbols settings (.parse spelled) <;> rfl

theorem marshalSignal_eq (symbols : SymbolTable) (settings : Settings) (owner spelled : String) :
    marshalSignal symbols settings owner spelled =
      orRefuse owner spelled .signalArgument
        (marshalSignalType? symbols settings (.parse spelled)) := by
  unfold marshalSignal
  cases marshalSignalType? symbols settings (.parse spelled) <;> rfl

/-- What is decided by the type that a spelling stands for is decided by its normal form. -/
theorem sameAnswer_orRefuse (h : normalize t = normalize u) (marshal? : CType → Option α) :
    SameAnswer owner t u role (orRefuse owner t role (marshal? (.parse t)))
      (orRefuse owner u role (marshal? (.parse u))) := by
  rw [parse_eq_iff.mpr h]
  cases marshal? (.parse u) with
  | none => exact .refused
  | some v => exact .value v

end Answer

/-- **The spelling of a type does not matter beyond its normal form.** Normalization leaves a normal
form as it is, and the type that a spelling is read as spells its normal form, with a base that
neither starts nor ends with a blank nor ends with a star. Spellings have one normal form if they
stand for one type, and if they differ in blanks that do not matter and in dashes behind `const`
only; then they are handed over in one way in each role, or refused in the same words but for the
spelling. -/
theorem marshaled_by_normalize (t : String) :
    normalize (normalize t) = normalize t ∧
    normalize t = (if (parse t).isConst then "const " else "") ++ (parse t).base ++
      String.ofList (List.replicate (parse t).depth '*') ∧
    IsBare (parse t).base.toList ∧
    ∀ u, (normalize t = normalize u ↔ parse t = parse u) ∧
      (normalize t = normalize u ↔ Alike t.toList u.toList) ∧
      (normalize t = normalize u → ∀ symbols settings owner,
        (∀ name, SameAnswer owner t u .parameter
          (marshalParameter symbols settings owner name t)
          (marshalParameter symbols settings owner name u)) ∧
        (∀ isConstructor, SameAnswer owner t u .result
          (marshalResult symbols settings owner isConstructor t)
          (marshalResult symbols settings owner isConstructor u)) ∧
        SameAnswer owner t u .property (marshalProperty symbols settings owner t)
          (marshalProperty symbols settings owner u) ∧
        SameAnswer owner t u .signalArgument (marshalSignal symbols settings owner t)
          (marshalSignal symbols settings owner u)) := by
  refine ⟨normalize_idem t, normalize_eq_spelling t, isBare_base (isNormal_normalForm _),
    fun u => ⟨parse_eq_iff.symm, ?_, fun h symbols settings owner => ⟨fun name => ?_,
      fun isConstructor => ?_, ?_, ?_⟩⟩⟩
  · rw [normalize, normalize, String.ofList_inj]
    exact normalForm_eq_iff
  · rw [marshalParameter_eq, marshalParameter_eq]
    exact sameAnswer_orRefuse h _
  · rw [marshalResult_eq, marshalResult_eq]
    exact sameAnswer_orRefuse h _
  · rw [marshalProperty_eq, marshalProperty_eq]
    exact sameAnswer_orRefuse h _
  · rw [marshalSignal_eq, marshalSignal_eq]
    exact sameAnswer_orRefuse h _

theorem marshaled_by_normalize_label :
    normalize "const-char\u00a0\t*" = normalize " const  char *" ∧
      marshalResult [] {} "gtk_label_get" false " const  char *" =
        .ok ⟨.string, .read "peekUTFString" false⟩ ∧
      SameAnswer "gtk_label_get" "const-char\u00a0\t*" " const  char *" .result
        (marshalResult [] {} "gtk_label_get" false "const-char\u00a0\t*")
        (marshalResult [] {} "gtk_label_get" false " const  char *") := by
  have hsame : normalize "const-char\u00a0\t*" = normalize " const  char *" := by decide +kernel
  obtain ⟨-, -, -, hspellings⟩ := marshaled_by_normalize "const-char\u00a0\t*"
  have hanswers := (hspellings " const  char *").2.2 hsame [] {} "gtk_label_get"
  exact ⟨hsame, by decide +kernel, hanswers.2.1 false⟩

end CType
end BindingGen
