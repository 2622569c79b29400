/-
# What the classification reads

Of an object type the classification reads its C name and the name of its parent, and nothing of
its members. The outline of a library is the library with everything else left out: it is
classified in the same way, with the same journal. So two libraries with one outline have one table
of symbols and one list of failures.

Key definitions: `Object.outline`, `Api.outline`.
Key theorems: `Ancestry.walk_map`, `Classified.ofObject_map`, `classify_outline`.
-/
import BindingGen.Symbol.Classification

namespace BindingGen

/-- The C name and the parent of an object type. -/
def Object.outline (o : Object) : Object where
  name := ""
  cname := o.cname
  parent := o.parent

/-- A namespace with the outlines of its objects. -/
def Namespace.outline (ns : Namespace) : Namespace :=
  { ns with objects := ns.objects.map Object.outline }

/-- A library with the outlines of its objects. -/
def Api.outline (api : Api) : Api := api.map Namespace.outline

theorem Api.declared_outline (api : Api) :
    api.outline.declared = api.declared.map Object.outline := by
  simp only [declared, outline, List.flatMap_map, List.map_flatMap]
  rfl

theorem firstNamed?_outline (name : String) (declared : List Object) :
    firstNamed? (·.cname) name (declared.map Object.outline) =
      (firstNamed? (·.cname) name declared).map Object.outline := by
  unfold firstNamed?
  rw [List.find?_map]
  rfl

/-- A walk that finds an image of every parent takes the same way, if images keep C names and
parents. -/
theorem Ancestry.walk_map {declared declared' : List Object} {f : Object → Object}
    (hcname : ∀ o, (f o).cname = o.cname) (hparent : ∀ o, (f o).parent = o.parent)
    (hfind : ∀ name, firstNamed? (·.cname) name declared' =
      (firstNamed? (·.cname) name declared).map f)
    (root : String) (chain : List String) (current : Object) :
    walk declared' root chain (f current) = walk declared root chain current := by
  -- each test reads a field that an image keeps
  fun_induction walk declared root chain current with
  | case1 chain current hroot =>
    rw [walk, hcname, if_pos hroot]
  | case2 chain current hroot hnone =>
    rw [walk, hcname, hparent, if_neg hroot, if_pos hnone]
  | case3 chain current hroot hsome hmem =>
    rw [walk, hcname, hparent, if_neg hroot, if_neg hsome, dif_pos hmem]
  | case4 chain current hroot hsome hnew hnext =>
    rw [walk, hcname, hparent, if_neg hroot, if_neg hsome, dif_neg hnew, if_pos hnext]
  | case5 chain current hroot hsome hnew hnext hnot =>
    have himage := hfind current.parent
    rw [hnot, Option.map_none] at himage
    rw [walk, hcname, hparent, if_neg hroot, if_neg hsome, dif_neg hnew, if_neg hnext]
    split
    · rfl
    · rename_i hother
      cases himage.symm.trans hother
  | case6 chain current hroot hsome hnew hnext parent hfound ih =>
    have himage := hfind current.parent
    rw [hfound, Option.map_some] at himage
    rw [walk, hcname, hparent, if_neg hroot, if_neg hsome, dif_neg hnew, if_neg hnext]
    split
    · rename_i hother
      cases himage.symm.trans hother
    · rename_i other hother
      obtain rfl := Option.some.inj (himage.symm.trans hother)
      exact ih

namespace Classified

theorem ofObject_map {declared declared' : List Object} {f : Object → Object}
    (hcname : ∀ o, (f o).cname = o.cname) (hparent : ∀ o, (f o).parent = o.parent)
    (hfind : ∀ name, firstNamed? (·.cname) name declared' =
      (firstNamed? (·.cname) name declared).map f)
    (root : String) (o : Object) : ofObject declared' root (f o) = ofObject declared root o := by
  unfold ofObject Ancestry.ofObject
  rw [hcname, Ancestry.walk_map hcname hparent hfind]

theorem ofObject_outline (declared : List Object) (root : String) (o : Object) :
    ofObject (declared.map Object.outline) root o.outline = ofObject declared root o :=
  ofObject_map (f := Object.outline) (fun _ => rfl) (fun _ => rfl)
    (fun name => firstNamed?_outline name declared) root o

theorem ofNamespace_outline (declared : List Object) (root : String) (ns : Namespace) :
    ofNamespace (declared.map Object.outline) root ns.outline = ofNamespace declared root ns := by
  simp only [ofNamespace, Namespace.outline, List.map_map, Function.comp_def, ofObject_outline]

theorem ofApi_outline (api : Api) (root : String) : ofApi api.outline root = ofApi api root := by
  unfold ofApi
  rw [Api.declared_outline, Api.outline, List.flatMap_map]
  simp only [ofNamespace_outline]

end Classified

/-- **The classification reads the outline.** -/
theorem classify_outline (settings : Settings) (collect : Bool) (api : Api) :
    classify settings collect api.outline = classify settings collect api := by
  unfold classify
  rw [Classified.ofApi_outline]

end BindingGen
