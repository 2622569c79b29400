/-
# Connect helpers and their handlers

The name of a connect helper lists the categories of a handler's arguments, or `NONE` if there are
none, and behind two underscores the category of its result. A category is a word without
underscores, so that the list is read off the name again. What is read are the arguments of the
handler, with one exception: an argument of the C type without values has the category `NONE` as
well, and alone it is taken for no argument at all, although the handler has one.

Key definitions: `IsCategory`, `Handler.decode`, `Handler.argumentTypes`, `Signal.HasLoneVoid`.
Key theorems: `category_of_marshalSignalType?`, `Handler.decode_named`, `Handler.decode_helper`,
`Handler.not_decode_helper_unused`.
-/
import BindingGen.Member.Handler
import BindingGen.Proofs.Function.Returned
import BindingGen.Proofs.Text.Replacement

namespace BindingGen

open Text

/-! ### Categories -/

/-- The text is a word in the name of a helper: it is not empty and has no underscore. -/
def IsCategory (category : String) : Prop := category ≠ "" ∧ '_' ∉ category.toList

instance (category : String) : Decidable (IsCategory category) :=
  inferInstanceAs (Decidable (_ ∧ _))

/-- The categories of values. -/
def valueCategories : List String :=
  ["PTR", "ENUM", "FLAGS", "STRING", "OBJECT", "BOXED"] ++
    Primitive.table.map fun entry => entry.2.category

theorem isCategory_none : IsCategory "NONE" := by decide

theorem isCategory_of_mem {category : String} (h : category ∈ valueCategories) :
    IsCategory category := by
  have hall : ∀ category ∈ valueCategories, IsCategory category := by decide +kernel
  exact hall category h

theorem ne_none_of_mem {category : String} (h : category ∈ valueCategories) :
    category ≠ "NONE" := by
  have hnone : "NONE" ∉ valueCategories := by decide +kernel
  exact fun he => hnone (he ▸ h)

/-- No symbol has the tip of an arrow in its name. -/
def SymbolTable.FreeOfArrows (symbols : SymbolTable) : Prop :=
  ∀ entry ∈ symbols, '>' ∉ entry.1.toList

instance (symbols : SymbolTable) : Decidable (SymbolTable.FreeOfArrows symbols) :=
  List.decidableBAll _ symbols

/-- The text has no tip of an arrow. -/
def IsArrowFree (text : String) : Prop := '>' ∉ text.toList

instance (text : String) : Decidable (IsArrowFree text) :=
  inferInstanceAs (Decidable ('>' ∉ text.toList))

theorem isArrowFree_append {a b : String} :
    IsArrowFree (a ++ b) ↔ IsArrowFree a ∧ IsArrowFree b := by
  simp [IsArrowFree]

theorem Name.ofType_subset (settings : Settings) (cname : String) :
    (ofType settings cname).toList ⊆ cname.toList := by
  unfold ofType dropKnown
  split
  · exact List.Subset.refl _
  · rw [String.toList_ofList]
    exact List.drop_subset _ _

section Signal

variable {symbols : SymbolTable} {settings : Settings} {type : CType} {m : String × HsType}

theorem SymbolTable.FreeOfArrows.ofType (hfree : SymbolTable.FreeOfArrows symbols)
    {base : String} {symbol : CSymbol} (h : symbols.lookup base = some symbol) :
    IsArrowFree (Name.ofType settings base) :=
  fun harrow =>
    hfree (base, symbol) (mem_of_lookup_eq_some h) (Name.ofType_subset settings base harrow)

/-- A category is `NONE` for the type without values only. -/
theorem category_of_marshalSignalType? (h : marshalSignalType? symbols settings type = some m) :
    (type.IsVoid ∧ m = ("NONE", .unit)) ∨ (¬type.IsVoid ∧ m.1 ∈ valueCategories) := by
  have hone (hdepth : type.depth = 1) : ¬type.IsVoid := by
    intro hvoid
    rw [hvoid.1] at hdepth
    cases hdepth
  revert h
  fun_cases marshalSignalType? symbols settings type
  case case1 hdepth hbase =>
    rintro ⟨⟩
    exact .inl ⟨⟨hdepth, hbase⟩, rfl⟩
  case case2 hdepth hbase p hp =>
    rintro ⟨⟩
    have hmem : (type.base, p) ∈ Primitive.table := mem_of_lookup_eq_some hp
    exact .inr ⟨fun hvoid => hbase hvoid.2,
      List.mem_append_right _ (List.mem_map_of_mem hmem)⟩
  case case3 hdepth hbase _ _ | case4 hdepth hbase _ _ _ | case5 hdepth hbase _ _ _ =>
    rintro ⟨⟩
    exact .inr ⟨fun hvoid => hbase hvoid.2, by simp [valueCategories]⟩
  -- a value behind a pointer
  case case7 hdepth _ | case8 hdepth _ _ _ | case9 hdepth _ _ | case10 hdepth _ _ |
      case11 hdepth _ _ | case12 hdepth _ _ _ _ _ _ _ | case13 hdepth _ _ _ =>
    rintro ⟨⟩
    exact .inr ⟨hone hdepth, by simp [valueCategories]⟩
  case case6 | case14 | case15 => exact fun h => by cases h

theorem isArrowFree_of_marshalSignalType? (hfree : SymbolTable.FreeOfArrows symbols)
    (h : marshalSignalType? symbols settings type = some m) : IsArrowFree m.2.render := by
  revert h
  fun_cases marshalSignalType? symbols settings type
  case case1 | case3 | case7 | case12 | case13 =>
    rintro ⟨⟩
    decide
  case case2 _ _ p hp =>
    rintro ⟨⟩
    have hall : ∀ entry ∈ Primitive.table, '>' ∉ entry.2.type.render.toList := by decide +kernel
    exact hall (type.base, p) (mem_of_lookup_eq_some hp)
  case case5 hs _ _ _ _ hsymbol =>
    rintro ⟨⟩
    have hname : IsArrowFree hs := hfree.ofType hsymbol
    exact isArrowFree_append.mpr ⟨isArrowFree_append.mpr ⟨by decide, hname⟩, by decide⟩
  -- a value that has the Haskell name of its C type
  case case4 hs _ _ _ _ hsymbol | case8 hs _ _ _ hsymbol | case9 hs _ _ hsymbol |
      case10 hs _ _ hsymbol | case11 hs _ _ hsymbol =>
    rintro ⟨⟩
    exact hfree.ofType hsymbol
  case case6 | case14 | case15 => exact fun h => by cases h

end Signal

/-! ### Names of helpers -/

/-- No two underscores stand side by side. -/
def Parted (a b : Char) : Prop := ¬(a = '_' ∧ b = '_')

theorem isChain_parted_append {word rest : List Char} (hword : '_' ∉ word)
    (hrest : rest.IsChain Parted) : (word ++ rest).IsChain Parted := by
  induction word with
  | nil => exact hrest
  | cons c word ih =>
    rw [List.mem_cons, not_or] at hword
    exact List.isChain_cons.mpr ⟨fun d _ hboth => hword.1 hboth.1.symm, ih hword.2⟩

theorem isChain_parted_joined {words : List (List Char)} (hne : words ≠ [])
    (h : ∀ word ∈ words, word ≠ [] ∧ '_' ∉ word) :
    (['_'].intercalate words ++ ['_']).IsChain Parted := by
  induction words with
  | nil => exact absurd rfl hne
  | cons word rest ih =>
    rw [List.forall_mem_cons] at h
    cases rest with
    | nil =>
      rw [List.intercalate_singleton]
      exact isChain_parted_append h.1.2 (List.isChain_singleton _)
    | cons next rest =>
      rw [List.intercalate_cons_cons, List.append_assoc, List.append_assoc]
      refine isChain_parted_append h.1.2 (List.isChain_cons.mpr ⟨fun c hc hboth => ?_, ?_⟩)
      · obtain ⟨hnext, hfree⟩ := h.2 next List.mem_cons_self
        obtain ⟨d, tail, rfl⟩ := List.exists_cons_of_ne_nil hnext
        have hhead : c = d := by cases rest <;> simpa using hc.symm
        exact hfree (hboth.2 ▸ hhead ▸ List.mem_cons_self)
      · exact ih (by simp) h.2

theorem standsClear_joined {words : List (List Char)} (hne : words ≠ [])
    (h : ∀ word ∈ words, word ≠ [] ∧ '_' ∉ word) :
    StandsClear '_' ['_'] (['_'].intercalate words) := by
  intro ending hending hnonempty hstarts
  have hchain : (ending ++ ['_']).IsChain Parted := by
    obtain ⟨front, hfront⟩ := hending
    have hall := isChain_parted_joined hne h
    rw [← hfront, List.append_assoc] at hall
    exact hall.right_of_append
  have hlong : ending ++ ['_', '_'] = (ending ++ ['_']) ++ ['_'] := by simp
  have hlength : ['_', '_'].length ≤ (ending ++ ['_']).length := by
    have := List.length_pos_iff.mpr hnonempty
    simp; omega
  rw [hlong] at hstarts
  obtain ⟨tail, htail⟩ := List.prefix_of_prefix_length_le hstarts (List.prefix_append _ _) hlength
  rw [← htail] at hchain
  exact (List.isChain_cons_cons.mp hchain).1 ⟨rfl, rfl⟩

namespace Handler

/-- What the name of a helper tells: the categories of the arguments, where `NONE` alone stands for
no argument, and the category of the result. -/
def decode (helper : String) : Option (List String × String) :=
  match cut '_' ['_'] (helper.toList.drop "connect_".toList.length) with
  | [front, back] =>
    let categories := (cut '_' [] front).map String.ofList
    some (if categories = ["NONE"] then [] else categories, String.ofList back)
  | _ => none

/-- The categories that a helper is named for are read off its name, up to `NONE` alone. -/
theorem decode_named {categories : List String} {result : String} (hne : categories ≠ [])
    (h : ∀ category ∈ categories, IsCategory category) (hresult : IsCategory result) :
    decode ("connect_" ++ "_".intercalate categories ++ "__" ++ result) =
      some (if categories = ["NONE"] then [] else categories, result) := by
  have hwords : ∀ word ∈ categories.map String.toList, word ≠ [] ∧ '_' ∉ word := by
    refine List.forall_mem_map.mpr fun category hmem => ?_
    exact ⟨fun hnil => (h category hmem).1 (String.toList_eq_nil_iff.mp hnil), (h category hmem).2⟩
  have hwordsne : categories.map String.toList ≠ [] := by simpa using hne
  have hname : ("connect_" ++ "_".intercalate categories ++ "__" ++ result).toList.drop
      "connect_".toList.length =
        ['_'].intercalate (categories.map String.toList) ++ '_' :: (['_'] ++ result.toList) := by
    simp only [String.toList_append, String.toList_intercalate, List.append_assoc, List.drop_left]
    rfl
  have hcut := cut_append_self (standsClear_joined hwordsne hwords) result.toList
  rw [cut_eq_singleton (standsClear_of_not_mem hresult.2)] at hcut
  have hfront : (cut '_' [] (['_'].intercalate (categories.map String.toList))).map String.ofList =
      categories := by
    rw [cut_intercalate hwordsne fun word hword => standsClear_of_not_mem (hwords word hword).2,
      List.map_map]
    simp
  rw [decode, hname, hcut]
  simp only [hfront, String.ofList_toList]

/-! ### Types of handlers -/

/-- The types of the arguments that are read off the text of a handler's type. -/
def argumentTypes (type : String) : List String :=
  let arrows := if startsWith "(" type then (type.toList.drop 1).dropLast else type.toList
  (cut ' ' "-> ".toList arrows).dropLast.map String.ofList

theorem standsClear_arrow {text : String} (h : IsArrowFree text) :
    StandsClear ' ' "-> ".toList text.toList := by
  have harrow : "-> ".toList = ['-', '>', ' '] := rfl
  intro ending hending hne hstarts
  rw [harrow] at hstarts
  rcases ending with _ | ⟨c, _ | ⟨d, _ | ⟨e, rest⟩⟩⟩
  · exact hne rfl
  · simp at hstarts
  · simp at hstarts
  · obtain ⟨-, -, htip, -⟩ : ' ' = c ∧ '-' = d ∧ '>' = e ∧ _ := by
      simpa only [List.cons_append, List.cons_prefix_cons] using hstarts
    exact h (htip ▸ hending.subset (by simp))

theorem isArrowFree_parenthesized {type : String} (h : IsArrowFree type) :
    IsArrowFree (parenthesized type) := by
  unfold parenthesized
  split
  · exact isArrowFree_append.mpr ⟨isArrowFree_append.mpr ⟨by decide, h⟩, by decide⟩
  · exact h

theorem argumentTypes_action {result : String} (h : IsArrowFree result) :
    argumentTypes ("IO " ++ result) = [] := by
  have hopen : startsWith "(" ("IO " ++ result) = false := by
    rw [startsWith, String.toList_append]
    rfl
  have haction : IsArrowFree ("IO " ++ result) := isArrowFree_append.mpr ⟨by decide, h⟩
  rw [argumentTypes, hopen]
  simp only [Bool.false_eq_true, if_false, cut_eq_singleton (standsClear_arrow haction)]
  rfl

theorem argumentTypes_function {types : List String} {action : String}
    (htypes : ∀ type ∈ types, IsArrowFree type) (haction : IsArrowFree action) :
    argumentTypes ("(" ++ " -> ".intercalate (types ++ [action]) ++ ")") = types := by
  have hsep : " -> ".toList = ' ' :: "-> ".toList := rfl
  have hlist : ("(" ++ " -> ".intercalate (types ++ [action]) ++ ")").toList =
      '(' :: ((' ' :: "-> ".toList).intercalate ((types ++ [action]).map String.toList) ++
        [')']) := by
    rw [String.toList_append, String.toList_append, String.toList_intercalate, hsep]
    rfl
  have hopen : startsWith "(" ("(" ++ " -> ".intercalate (types ++ [action]) ++ ")") = true := by
    rw [startsWith, hlist]
    rfl
  have hclear : ∀ text ∈ (types ++ [action]).map String.toList,
      StandsClear ' ' "-> ".toList text := by
    refine List.forall_mem_map.mpr fun type htype => standsClear_arrow ?_
    rcases List.mem_append.mp htype with htype | hlast
    · exact htypes type htype
    · exact List.mem_singleton.mp hlast ▸ haction
  rw [argumentTypes, hopen, if_pos rfl, hlist, List.drop_one, List.tail_cons, List.dropLast_concat,
    cut_intercalate (by simp) hclear, List.map_append, List.map_singleton, List.dropLast_concat,
    List.map_map]
  simp

/-- The type of a handler shows the types of its arguments, if arrows stand between them only. -/
theorem argumentTypes_type {h : Handler} (harguments : ∀ a ∈ h.arguments, IsArrowFree a.2.render)
    (hresult : IsArrowFree h.result.2.render) :
    argumentTypes h.type = h.arguments.map (·.2.render) := by
  have hpart := isArrowFree_parenthesized hresult
  rw [Handler.type]
  by_cases hempty : h.arguments.isEmpty = true
  · rw [if_pos hempty, argumentTypes_action hpart, List.isEmpty_iff.mp hempty]
    rfl
  · have haction : IsArrowFree ("IO " ++ parenthesized h.result.2.render) :=
      isArrowFree_append.mpr ⟨by decide, hpart⟩
    rw [if_neg hempty]
    exact argumentTypes_function (List.forall_mem_map.mpr harguments) haction

end Handler

/-! ### Handlers of signals -/

/-- What a signal hands over besides the object that emits it is one argument without values. -/
def Signal.HasLoneVoid (obj : Object) (s : Signal) : Prop :=
  ∃ p, s.handlerParameters obj = [p] ∧ (CType.parse p.type).IsVoid

namespace Handler

section OfSignal

variable {symbols : SymbolTable} {settings : Settings} {obj : Object} {s : Signal} {h : Handler}

theorem ofSignal_eq_ok_iff :
    ofSignal symbols settings obj s = .ok h ↔
      List.Forall₂ (fun p a => marshalSignal symbols settings s.cname p.type = .ok a)
        (s.handlerParameters obj) h.arguments ∧
      marshalSignal symbols settings s.cname s.returnType = .ok h.result := by
  unfold ofSignal
  rw [bind_eq_ok_iff]
  simp only [bind_eq_ok_iff, mapM_eq_ok_iff]
  constructor
  · rintro ⟨arguments, harguments, result, hresult, hh⟩
    obtain rfl := Except.ok.inj hh
    exact ⟨harguments, hresult⟩
  · rintro ⟨harguments, hresult⟩
    exact ⟨_, harguments, _, hresult, rfl⟩

theorem isCategory_of_marshalSignal {owner type : String} {m : String × HsType}
    (hm : marshalSignal symbols settings owner type = .ok m) : IsCategory m.1 := by
  rcases category_of_marshalSignalType? (marshalSignal_eq_ok_iff.mp hm) with ⟨-, rfl⟩ | ⟨-, hmem⟩
  · exact isCategory_none
  · exact isCategory_of_mem hmem

theorem isVoid_iff_category {owner type : String} {m : String × HsType}
    (hm : marshalSignal symbols settings owner type = .ok m) :
    (CType.parse type).IsVoid ↔ m.1 = "NONE" := by
  rcases category_of_marshalSignalType? (marshalSignal_eq_ok_iff.mp hm) with
    ⟨hvoid, rfl⟩ | ⟨hvalue, hmem⟩
  · exact iff_of_true hvoid rfl
  · exact iff_of_false hvalue (ne_none_of_mem hmem)

theorem hasLoneVoid_iff (hs : ofSignal symbols settings obj s = .ok h) :
    s.HasLoneVoid obj ↔ h.arguments.map (·.1) = ["NONE"] := by
  have harguments := (ofSignal_eq_ok_iff.mp hs).1
  constructor
  · rintro ⟨p, hparameters, hvoid⟩
    rw [hparameters, List.forall₂_cons_left_iff] at harguments
    obtain ⟨a, rest, ha, hrest, hlist⟩ := harguments
    rw [hlist, List.forall₂_nil_left_iff.mp hrest, List.map_singleton,
      (isVoid_iff_category ha).mp hvoid]
  · intro hnone
    obtain ⟨a, hlist, hcategory⟩ := List.map_eq_singleton_iff.mp hnone
    rw [hlist, List.forall₂_cons_right_iff] at harguments
    obtain ⟨p, rest, ha, hrest, hparameters⟩ := harguments
    rw [List.forall₂_nil_right_iff.mp hrest] at hparameters
    exact ⟨p, hparameters, (isVoid_iff_category ha).mpr hcategory⟩

/-- What is read off the name of a helper are the categories of the arguments, up to `NONE`
alone. -/
theorem decode_ofSignal (hs : ofSignal symbols settings obj s = .ok h) :
    decode h.helper =
      some (if h.arguments.map (·.1) = ["NONE"] then [] else h.arguments.map (·.1),
        h.result.1) := by
  obtain ⟨harguments, hresult⟩ := ofSignal_eq_ok_iff.mp hs
  have hall : ∀ category ∈ h.arguments.map (·.1), IsCategory category := by
    refine List.forall_mem_map.mpr fun a ha => ?_
    obtain ⟨p, -, hp⟩ := exists_of_mem_forall₂ harguments ha
    exact isCategory_of_marshalSignal hp
  have hbehind := isCategory_of_marshalSignal hresult
  rw [helper]
  by_cases hempty : h.arguments.isEmpty = true
  · have hnone : ∀ category ∈ ["NONE"], IsCategory category := by decide
    rw [if_pos hempty, decode_named (by simp) hnone hbehind, List.isEmpty_iff.mp hempty]
    rfl
  · have hne : h.arguments.map (·.1) ≠ [] := by simpa using hempty
    rw [if_neg hempty, decode_named hne hall hbehind]

/-- Of two lists that are read alike, one is longer only if it alone is the one that is read as no
argument. -/
theorem length_eq_iff_of_decoded {categories other : List String}
    (h : (if other = ["NONE"] then [] else other) =
      if categories = ["NONE"] then [] else categories) :
    other.length = categories.length ↔ (other = ["NONE"] ↔ categories = ["NONE"]) := by
  by_cases hother : other = ["NONE"] <;> by_cases hnone : categories = ["NONE"]
  · rw [hother, hnone]
    exact iff_of_true rfl Iff.rfl
  · rw [if_pos hother, if_neg hnone] at h
    rw [hother, ← h]
    exact iff_of_false (by simp) (by simp)
  · rw [if_neg hother, if_pos hnone] at h
    rw [hnone, h]
    exact iff_of_false (by simp) (by simp)
  · rw [if_neg hother, if_neg hnone] at h
    rw [h]
    exact iff_of_true rfl Iff.rfl

/-- **A helper's name tells the arguments of its handlers, unless one argument without values is all
there is.** The handler of a signal has one argument for each parameter but the emitting object, of
the category and the type of the parameter's C type, and the types stand between the arrows of the
signature. The categories that are read off the name of the helper are those of the arguments and
of the result, but a lone argument of the type without values is read as no argument. So handlers
that are connected by one helper have results of one category, and as many arguments unless such an
argument is passed to one of them only. -/
theorem decode_helper (hs : ofSignal symbols settings obj s = .ok h) :
    List.Forall₂ (fun p a => marshalSignal symbols settings s.cname p.type = .ok a)
      (s.handlerParameters obj) h.arguments ∧
    marshalSignal symbols settings s.cname s.returnType = .ok h.result ∧
    (SymbolTable.FreeOfArrows symbols →
      argumentTypes h.type = h.arguments.map (·.2.render)) ∧
    (¬s.HasLoneVoid obj → decode h.helper = some (h.arguments.map (·.1), h.result.1)) ∧
    (s.HasLoneVoid obj → decode h.helper = some ([], h.result.1) ∧ h.arguments.length = 1) ∧
    ∀ symbols' settings' obj' s' h', ofSignal symbols' settings' obj' s' = .ok h' →
      h'.helper = h.helper → h'.result.1 = h.result.1 ∧
        (h'.arguments.length = h.arguments.length ↔
          (s'.HasLoneVoid obj' ↔ s.HasLoneVoid obj)) := by
  obtain ⟨harguments, hresult⟩ := ofSignal_eq_ok_iff.mp hs
  have hdecode := decode_ofSignal hs
  refine ⟨harguments, hresult, fun hfree => argumentTypes_type (fun a ha => ?_) ?_,
    fun hlone => ?_, fun hlone => ?_, fun symbols' settings' obj' s' h' hs' hname => ?_⟩
  · obtain ⟨p, -, hp⟩ := exists_of_mem_forall₂ harguments ha
    exact isArrowFree_of_marshalSignalType? hfree (marshalSignal_eq_ok_iff.mp hp)
  · exact isArrowFree_of_marshalSignalType? hfree (marshalSignal_eq_ok_iff.mp hresult)
  · rw [hdecode, if_neg (mt (hasLoneVoid_iff hs).mpr hlone)]
  · have hnone := (hasLoneVoid_iff hs).mp hlone
    have hlength := congrArg List.length hnone
    rw [List.length_map] at hlength
    rw [hdecode, if_pos hnone]
    exact ⟨rfl, hlength⟩
  · rw [← hname, decode_ofSignal hs'] at hdecode
    obtain ⟨hcategories, hresults⟩ := Prod.mk.inj (Option.some.inj hdecode)
    refine ⟨hresults, ?_⟩
    have hlengths := length_eq_iff_of_decoded hcategories
    rw [List.length_map, List.length_map] at hlengths
    rw [hasLoneVoid_iff hs, hasLoneVoid_iff hs', hlengths]

end OfSignal

/-- A wheel that emits a signal when it is turned. -/
def turnedWheel : Object where
  name := "Wheel"
  cname := "GtkWheel"

/-- The signal tells by how much the wheel is turned, and what turns it. -/
def turnedSignal : Signal where
  name := "Turned"
  cname := "turned"
  returnType := "gboolean"
  parameters :=
    [{ type := "GtkWheel *", name := "wheel" }, { type := "gint", name := "by" },
      { type := "GtkWheel*", name := "turner" }]

theorem decode_helper_turnedSignal :
    ∃ h : Handler,
      ofSignal [("GtkWheel", .object ["GtkWheel"])] {} turnedWheel turnedSignal = .ok h ∧
      h.helper = "connect_INT_OBJECT__BOOL" ∧
      ¬turnedSignal.HasLoneVoid turnedWheel ∧
      decode "connect_INT_OBJECT__BOOL" = some (["INT", "OBJECT"], "BOOL") ∧
      argumentTypes h.type = ["Int", "Wheel"] := by
  have hs : ofSignal [("GtkWheel", .object ["GtkWheel"])] {} turnedWheel turnedSignal =
      .ok ⟨[("INT", .plain "Int"), ("OBJECT", .plain "Wheel")], ("BOOL", .plain "Bool")⟩ := by
    decide +kernel
  have hlone : ¬turnedSignal.HasLoneVoid turnedWheel := by
    have hlength : (turnedSignal.handlerParameters turnedWheel).length = 2 := by decide +kernel
    rintro ⟨p, hp, -⟩
    rw [hp] at hlength
    cases hlength
  obtain ⟨-, -, htypes, hdecode, -, -⟩ := decode_helper hs
  exact ⟨_, hs, by decide +kernel, hlone, hdecode hlone, htypes (by decide +kernel)⟩

/-- A handler that is passed one argument without values is connected by the helper for handlers
without arguments, which is also that of a signal that hands over nothing. -/
theorem not_decode_helper_unused :
    ∃ unused clicked : Handler,
      ofSignal [] {} { name := "Button", cname := "GtkButton" }
        { name := "Pressed", cname := "pressed"
          parameters := [{ type := "void", name := "unused" }] } = .ok unused ∧
      ofSignal [] {} { name := "Button", cname := "GtkButton" }
        { name := "Clicked", cname := "clicked" } = .ok clicked ∧
      unused.type = "(() -> IO ())" ∧ unused.arguments.length = 1 ∧
      decode unused.helper = some ([], "NONE") ∧
      clicked.helper = unused.helper ∧ clicked.arguments.length = 0 :=
  ⟨⟨[("NONE", .unit)], ("NONE", .unit)⟩, ⟨[], ("NONE", .unit)⟩, by decide +kernel,
    by decide +kernel, by decide +kernel, rfl, by decide +kernel, by decide +kernel, rfl⟩

end Handler

end BindingGen
