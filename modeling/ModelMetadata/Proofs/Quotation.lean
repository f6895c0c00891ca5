import ModelMetadata.Oracle
import ModelMetadata.Proofs.Reading

/-!
Quoted annotations. A string literal stands for a text that is shorter than the literal, as its
quotes are not part of it and no escape is shorter than what it stands for. What the text is read as
weighs no more than the text is long, so the expression inside quotes always weighs less than its
quotation.
-/
set_option autoImplicit false
namespace ModelMetadata

open Source

/-! ## What stands inside quotes -/

theorem plainLineEnds_length_le (text : List Char) :
    (plainLineEnds text).length ≤ text.length := by
  fun_induction plainLineEnds text <;> simp only [List.length_cons, List.length_nil] <;> omega

namespace Text

theorem hexRun_length_le {count value result : Nat} {text rest : List Char}
    (h : hexRun count value text = some (result, rest)) : rest.length ≤ text.length := by
  fun_induction hexRun count value text with
  | case1 => cases h; exact Nat.le_refl _
  | case2 count value c rest digit hdigit ih => exact Nat.le_succ_of_le (ih h)
  | case3 => cases h
  | case4 => cases h

theorem octalRun_length_le (count value : Nat) (text : List Char) :
    (octalRun count value text).2.length ≤ text.length := by
  fun_induction octalRun count value text with
  | case1 => exact Nat.le_refl _
  | case2 => exact Nat.le_refl _
  | case3 count value c rest hoctal ih => exact Nat.le_succ_of_le ih
  | case4 => exact Nat.le_refl _

theorem namedCode?_length_le {text rest : List Char} {code : Nat}
    (h : namedCode? text = some (code, rest)) : rest.length ≤ text.length := by
  unfold namedCode? at h
  split at h
  · rename_i inner
    dsimp only at h
    split at h
    · rename_i after _ hafter
      obtain ⟨found, -, heq⟩ := Option.map_eq_some_iff.1 h
      cases heq
      have hdropped := congrArg List.length hafter
      rw [List.length_drop, List.length_cons] at hdropped
      rw [List.length_cons]
      omega
    · cases h
  · cases h

theorem appended_length_le {result : Option (List Nat)} {head codes : List Nat} {rest : List Char}
    (hresult : ∀ more, result = some more → more.length ≤ rest.length)
    (h : result.map (head ++ ·) = some codes) : codes.length ≤ head.length + rest.length := by
  obtain ⟨more, hmore, rfl⟩ := Option.map_eq_some_iff.1 h
  rw [List.length_append]
  exact Nat.add_le_add_left (hresult more hmore) head.length

theorem coded_length_le {fuel bound : Nat} {read : Option (Nat × List Char)} {codes : List Nat}
    (hmore : ∀ rest more, unescape fuel rest = some more → more.length ≤ rest.length)
    (hread : ∀ code rest, read = some (code, rest) → rest.length < bound)
    (h : (read.bind fun found =>
      if lastCode < found.1 then none
      else (unescape fuel found.2).bind fun more => some (found.1 :: more)) = some codes) :
    codes.length ≤ bound := by
  obtain ⟨⟨code, rest⟩, hfound, h⟩ := Option.bind_eq_some_iff.1 h
  dsimp only at h
  split at h
  · cases h
  · obtain ⟨more, htail, hvalue⟩ := Option.bind_eq_some_iff.1 h
    cases hvalue
    exact Nat.lt_of_le_of_lt (hmore rest more htail) (hread code rest hfound)

/-- A literal has no more characters than are written for it. -/
theorem unescape_length_le {fuel : Nat} {text : List Char} {codes : List Nat}
    (h : unescape fuel text = some codes) : codes.length ≤ text.length := by
  induction fuel generalizing text codes with
  | zero => cases h; exact Nat.zero_le _
  | succ fuel ih =>
    have hplain {head : List Nat} {rest : List Char}
        (hrest : (unescape fuel rest).map (head ++ ·) = some codes) :
        codes.length ≤ head.length + rest.length :=
      appended_length_le (fun _ hmore => ih hmore) hrest
    unfold unescape at h
    split at h
    · cases h
      exact Nat.zero_le _
    · cases h
      exact Nat.le_refl _
    · rename_i c rest heq
      cases heq
      have hhex (count code : Nat) (after : List Char) (hrun : hexRun count 0 rest = some (code, after)) :
          after.length < ('\\' :: c :: rest).length :=
        Nat.lt_succ_of_le (Nat.le_succ_of_le (hexRun_length_le hrun))
      split at h
      · have := @hplain [_] rest h
        simp only [List.length_cons, List.length_nil] at this ⊢
        omega
      · dsimp only at h
        split_ifs at h with hline hoctal hx hu hU hname
        · have := ih h
          simp only [List.length_cons]
          omega
        · refine coded_length_le (fun _ _ => ih) (fun code after hrun => ?_) h
          have := octalRun_length_le 3 0 (c :: rest)
          rw [Option.some.inj hrun] at this
          exact Nat.lt_succ_of_le this
        · exact coded_length_le (fun _ _ => ih) (hhex 2) h
        · exact coded_length_le (fun _ _ => ih) (hhex 4) h
        · exact coded_length_le (fun _ _ => ih) (hhex 8) h
        · exact coded_length_le (fun _ _ => ih) (fun code after hread =>
            Nat.lt_succ_of_le (Nat.le_succ_of_le (namedCode?_length_le hread))) h
        · have := @hplain [_, _] rest h
          simp only [List.length_cons, List.length_nil] at this ⊢
          omega
    · rename_i c rest _ heq
      cases heq
      have := @hplain [_] rest h
      simp only [List.length_cons, List.length_nil] at this ⊢
      omega

theorem length_of_mapM_codePoint? {codes : List Nat} {text : List Char}
    (h : codes.mapM codePoint? = some text) : text.length = codes.length := by
  induction codes generalizing text with
  | nil => cases h; rfl
  | cons code rest ih =>
    rw [List.mapM_cons] at h
    obtain ⟨c, -, h⟩ := Option.bind_eq_some_iff.1 h
    obtain ⟨more, hmore, h⟩ := Option.bind_eq_some_iff.1 h
    cases h
    rw [List.length_cons, List.length_cons, ih hmore]

end Text

/-- The characters between the quotes of a string token. -/
theorem stringParts_length (token : List Char) :
    (stringParts token).2 = [] ∨ (stringParts token).2.length + 2 ≤ token.length := by
  unfold stringParts
  dsimp only
  split
  · rename_i quote body hquote
    have hsplit := congrArg List.length (splitQuote_split hquote)
    have hopening : 0 < quote.length := by
      unfold splitQuote at hquote
      split at hquote <;> cases hquote <;> simp
    simp only [List.length_append, List.length_drop] at hsplit
    rw [List.take_eq_nil_iff, List.length_take]
    omega
  · exact .inl rfl

theorem readBody_length {mark body : List Char} {value : String}
    (h : readBody mark body = .ok (.text value)) : value.length ≤ body.length := by
  have hshort {text : List Char} (htext : text.length ≤ body.length) (hvalue : String.ofList text = value) :
      value.length ≤ body.length := by
    rwa [← hvalue, String.length_ofList]
  unfold readBody at h
  split_ifs at h with hbytes hraw hascii hraw
  · cases h
  · split at h <;> cases h
  · cases h
    exact hshort (Nat.le_refl _) rfl
  · split at h
    · rename_i codes hcodes
      split at h
      · rename_i text htext
        cases h
        exact hshort ((Text.length_of_mapM_codePoint? htext).trans_le (Text.unescape_length_le hcodes)) rfl
      · cases h
    · cases h

theorem readString_length {token value : String} (h : readString token = .ok (.text value)) :
    value = "" ∨ value.length + 2 ≤ token.length := by
  have hparts := stringParts_length token.toList
  have hline := plainLineEnds_length_le (stringParts token.toList).2
  unfold readString at h
  split at h
  · cases h
  · have hbody : value.length ≤ (plainLineEnds (stringParts token.toList).2).length := readBody_length h
    rw [String.length_toList] at hparts
    rcases hparts with hempty | hlong
    · have hzero := hbody.trans (hline.trans_eq (congrArg List.length hempty))
      exact .inl (by simpa using hzero)
    · right
      omega

/-- A string literal is heavier than the text it stands for. -/
theorem stringLiteral_length {e : Expr} {value : String}
    (h : stringLiteral e = .ok (some (.text value))) : value = "" ∨ value.length < e.weight := by
  fun_induction stringLiteral e generalizing value with
  | case1 token =>
    obtain ⟨found, hread, hfound⟩ := map_eq_ok.1 h
    cases hfound
    rcases readString_length hread with hempty | hlong
    · exact .inl hempty
    · exact .inr (by simp only [Expr.weight]; omega)
  | case2 => cases h
  | case3 => cases h
  | case4 first gap rest _ _ ihfirst ihrest =>
    obtain ⟨x, hx, h⟩ := bind_eq_ok.1 h
    obtain ⟨y, hy, h⟩ := bind_eq_ok.1 h
    have hboth : ∃ s t, x = some (.text s) ∧ y = some (.text t) ∧ s ++ t = value := by
      rcases x with - | ⟨s⟩ | s
      · cases h
      · rcases y with - | ⟨t⟩ | t <;> cases h
        exact ⟨s, t, rfl, rfl, rfl⟩
      · rcases y with - | ⟨t⟩ | t <;> cases h
    obtain ⟨s, t, rfl, rfl, rfl⟩ := hboth
    simp only [Expr.weight, String.length_append]
    rcases ihfirst hx with rfl | hs
    · rcases ihrest hy with rfl | ht
      · exact .inl rfl
      · exact .inr (by simpa using Nat.lt_add_left _ ht)
    · rcases ihrest hy with rfl | ht
      · exact .inr (by simpa using Nat.lt_add_right _ hs)
      · exact .inr (by omega)
  | case5 afterOpen inner beforeClose ih =>
    rcases ih h with hempty | hlight
    · exact .inl hempty
    · exact .inr (by simp only [Expr.weight]; omega)
  | case6 => cases h

theorem stringValue_length {e : Expr} {text : String} (h : stringValue e = .ok (some text)) :
    text = "" ∨ text.length < e.weight := by
  obtain ⟨found, hfound, h⟩ := bind_eq_ok.1 h
  split at h <;> cases h
  exact stringLiteral_length hfound

theorem trimmed_length_le (text : String) : (Text.trimmed text).length ≤ text.length := by
  have hleft := (List.dropWhile_suffix Text.isSpace (l := text.toList)).length_le
  have hright := (List.dropWhile_suffix Text.isSpace
    (l := (Text.trimLeft text.toList).reverse)).length_le
  simp only [Text.trimLeft, List.length_reverse] at hright
  simp only [Text.trimmed, Text.trim, Text.trimRight, Text.trimLeft, String.length_ofList,
    List.length_reverse]
  rw [← String.length_toList]
  exact Nat.le_trans hright hleft

theorem parse_empty : Expr.parse "" = .error .malformed := rfl

/-- The expression inside quotes is lighter than its quotation. -/
theorem weight_lt_of_quoted {e inner : Expr} {text : String} (htext : stringValue e = .ok (some text))
    (hinner : Expr.parse (Text.trimmed text) = .ok inner) : inner.weight < e.weight := by
  rcases stringValue_length htext with rfl | hshort
  · have hempty : Text.trimmed "" = "" := by decide
    rw [hempty, parse_empty] at hinner
    cases hinner
  · have hweight := Expr.weight_le_of_parse hinner
    have hlength := trimmed_length_le text
    omega

end ModelMetadata
