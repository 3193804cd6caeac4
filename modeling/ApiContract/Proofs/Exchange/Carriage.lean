/-
# Texts on their way

A path carries a text for a parameter if the text stands where the template of a route has the
parameter, a query if the text is the value of the first field with the name of the parameter.  In
a path a text is decoded as such, in a query as a text of a form.
-/
import ApiContract.Proofs.Exchange.Table
import ApiContract.Proofs.Parameter.Query

namespace ApiContract

/-! ## Paths -/

/-- A path that fills a template has a text where the template has a parameter. -/
def RouteTemplate.Carries (template : RouteTemplate) (path : String) (name : String)
    (text : List Char) : Prop :=
  ∃ values, Fills template.parts values path.toList ∧ (name, text) ∈ template.names.zip values ∧
    ∀ other, (name, other) ∈ template.names.zip values → other = text

/-- A path carries a text for a parameter of an operation: it is led to the route of the operation,
whose template has the parameter where the text stands. -/
def Api.Carries (api : Api) (method : Method) (path : String) (op : Operation) (name : String)
    (text : List Char) : Prop :=
  api.routes.AreTidy ∧ ∃ route ∈ api.routes, api.routes.Leads path route ∧
    route.target.lookup method = some op ∧ route.template.Carries path name text

/-- A path that carries a text for a parameter finds the operation, and the parameter has the
decoded text. -/
theorem Api.find?_of_carries {api : Api} {method : Method} {path name : String} {op : Operation}
    {text : List Char} (h : api.Carries method path op name text) :
    ∃ parameters, api.find? method path = some (op, parameters) ∧
      parameters.lookup name = some (decodeParameter text) := by
  obtain ⟨htidy, route, -, hleads, hop, values, hfills, hmem, honly⟩ := h
  have hfound := Routes.find?_eq_of_leads htidy hleads hfills
  refine ⟨Fields.ofPairs ((route.template.names.zip values).map fun pair =>
    (pair.1, decodeParameter pair.2)), ?_, Fields.lookup_ofPairs_of_forall ?_ ?_⟩
  · simp [find?, hfound, hop]
  · exact List.mem_map.2 ⟨(name, text), hmem, rfl⟩
  · intro value hvalue
    obtain ⟨⟨name', raw⟩, hraw, heq⟩ := List.mem_map.1 hvalue
    obtain ⟨rfl, rfl⟩ := Prod.mk.inj heq
    rw [honly raw hraw]

/-! ## Queries -/

namespace Query

variable {name text : String}

/-- A query carries a text for a name: it is the value of the first field with the name, and what
stands between ampersands are fields. -/
def Carries (query name : String) (text : List Char) : Prop :=
  ∃ before key after, Text.split '&' query.toList = before ++ (key ++ '=' :: text) :: after ∧
    '=' ∉ key ∧ String.ofList (Percent.decodeForm key) = name ∧
    (∀ piece ∈ before, ∃ field, formField? piece = some field ∧ field.1 ≠ name) ∧
    ∀ piece ∈ after, ∃ field, formField? piece = some field

/-- A query that carries a text for a name can be read, and the first value of the name is the text
as it is decoded in forms. -/
theorem ofText_of_carries {cs : List Char} (h : Carries text name cs) :
    ∃ query values, ofText text = .ok query ∧
      query.lookup name = some (String.ofList (Percent.decodeForm cs) :: values) := by
  obtain ⟨before, key, after, hsplit, hequals, hname, hbefore, hafter⟩ := h
  have hmem : key ++ '=' :: cs ∈ Text.split '&' text.toList := by simp [hsplit]
  have hampersand := Text.not_mem_of_mem_split hmem
  rw [List.mem_append, List.mem_cons, not_or, not_or] at hampersand
  have htext : text ≠ "" := by
    rintro rfl
    simp [Text.split] at hmem
  -- The fields before the one with the text have other names.
  obtain ⟨earlier, hearlier⟩ := exists_forall₂ hbefore
  obtain ⟨later, hlater⟩ := exists_forall₂ hafter
  have hpairs : List.Forall₂ (fun piece pair => formField? piece = some pair) (pieces text)
      (earlier ++ [(name, String.ofList (Percent.decodeForm cs))] ++ later) := by
    rw [pieces, if_neg htext, hsplit, List.append_assoc]
    refine List.rel_append (hearlier.imp fun _ _ => And.left) (.cons ?_ hlater)
    rw [formField?_eq_some hequals hampersand.1 hampersand.2.2, hname]
  have hnone : valuesOf name earlier = [] := by
    refine valuesOf_eq_nil_iff.2 fun hname' => ?_
    obtain ⟨pair, hpair, hfirst⟩ := List.mem_map.1 hname'
    obtain ⟨-, -, -, hne⟩ := exists_left_of_forall₂ hearlier hpair
    exact hne hfirst
  refine ⟨_, valuesOf name later, ofText_eq_ok_iff.2 ⟨_, hpairs, rfl⟩, ?_⟩
  rw [lookup_grouped, valuesOf_append, valuesOf_append, hnone, valuesOf_singleton, if_pos rfl]
  rfl

end Query

end ApiContract
