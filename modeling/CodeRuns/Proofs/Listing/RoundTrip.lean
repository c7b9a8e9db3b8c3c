import CodeRuns.Classifier
import CodeRuns.Listing.Sink
import CodeRuns.Proofs.Listing.Head
import CodeRuns.Proofs.Listing.Tokens

/-! A listing read back. Without its comment lines and white space a listing is the source of
one table, and the lists in it read as the starts and the roles of the table that was written.
So a file comes from one table only, and what is read from it passes or fails as that did. -/

namespace CodeRuns.Listing

def squeezed (cs : List Char) : List Char := cs.filter fun c => !Text.Blank.isBlank c

def tableSource (starts roles : List Char) : List Char :=
  "ClassificationData\x7bstarts:&[".toList ++ starts ++ "],classes:&[".toList ++ roles ++
    "],\x7d".toList

/-- The text, less comments and white space, is the source of the table. -/
def Denotes (cs : List Char) (t : RunTable) : Prop :=
  ∃ starts roles, squeezed (uncommented cs) = tableSource starts roles ∧
    readAll? code? starts = some t.starts.toList ∧ readAll? role? roles = some t.roles.toList

@[simp] theorem squeezed_append (as bs : List Char) :
    squeezed (as ++ bs) = squeezed as ++ squeezed bs := List.filter_append ..

theorem filter_intercalate {p : Char → Bool} {a : Char} (ha : p a = false)
    (pieces : List (List Char)) :
    ([a].intercalate pieces).filter p = pieces.flatten.filter p := by
  induction pieces with
  | nil => rfl
  | cons piece rest ih =>
    by_cases hrest : rest = []
    · subst hrest
      simp
    · rw [List.intercalate_cons_of_ne_nil hrest]
      simp [ha, ih]

theorem filter_flatten_splitOn {p : Char → Bool} (hfeed : p '\n' = false) (cs : List Char) :
    ((cs.splitOn '\n').flatten).filter p = cs.filter p := by
  rw [← filter_intercalate hfeed, List.intercalate_splitOn]

theorem squeezed_uncommented {cs : List Char} (hslash : '/' ∉ cs) :
    squeezed (uncommented cs) = squeezed cs := by
  -- no line is left out, for a comment would bring its slashes into the text
  have hkeep : (cs.splitOn '\n').filter (fun line => !"//".toList.isPrefixOf line) =
      cs.splitOn '\n' := by
    apply List.filter_eq_self.2
    intro line hline
    rw [Bool.not_eq_true', Bool.eq_false_iff]
    intro hslashes
    obtain ⟨rest, rfl⟩ := List.isPrefixOf_iff_prefix.1 hslashes
    apply hslash
    have hmem : '/' ∈ ((cs.splitOn '\n').flatten).filter (· == '/') :=
      List.mem_filter.2 ⟨List.mem_flatten.2 ⟨_, hline, by simp⟩, by decide⟩
    rw [filter_flatten_splitOn (by decide)] at hmem
    exact (List.mem_filter.1 hmem).1
  rw [uncommented, hkeep]
  exact filter_flatten_splitOn (by decide) cs

section Items

variable {α : Type} {write : α → List Char}

theorem squeezed_setLines (h : ∀ a, ∀ c ∈ write a, IsBare c) (as : List α) (width : Nat) :
    squeezed (setLines (fill width (as.map fun a => item (write a)))) =
      as.flatMap fun a => write a ++ [','] := by
  refine filter_setLines_fill (by decide) (by decide) (by decide) (fun c hc => ?_) h as width
  rw [hc.not_blank]
  rfl

theorem slash_not_mem_setLines (h : ∀ a, ∀ c ∈ write a, IsBare c) (as : List α) (width : Nat) :
    '/' ∉ setLines (fill width (as.map fun a => item (write a))) := by
  intro hmem
  have hkept : '/' ∈ squeezed (setLines (fill width (as.map fun a => item (write a)))) :=
    List.mem_filter.2 ⟨hmem, by decide⟩
  rw [squeezed_setLines h, List.mem_flatMap] at hkept
  obtain ⟨a, -, hslash⟩ := hkept
  rcases List.mem_append.1 hslash with hslash | hslash
  · exact not_mem_of_isBare (h a) (by decide) hslash
  · exact absurd hslash (by decide)

end Items

theorem squeezed_numbers (ns : List Nat) (width : Nat) :
    squeezed (numbers ns width) = ns.flatMap fun n => numberLiteral n ++ [','] :=
  squeezed_setLines (fun _ _ hc => isBare_of_mem_numberLiteral hc) ns width

theorem squeezed_roles (rs : List Role) (width : Nat) :
    squeezed (roles rs width) = rs.flatMap fun r => roleLiteral r ++ [','] :=
  squeezed_setLines (fun _ _ hc => isBare_of_mem_roleLiteral hc) rs width

theorem toList_body (t : RunTable) : (body t).toList =
    "ClassificationData \x7b\n  starts: &[".toList ++
      numbers (t.starts.toList.map UInt32.toNat) width ++ "  ],\n  classes: &[".toList ++
      roles t.roles.toList width ++ "  ],\n\x7d\n".toList := by
  delta body
  rw [String.toList_append, String.toList_append, String.toList_append, String.toList_append,
    @String.toList_ofList (numbers _ _), @String.toList_ofList (roles _ _)]

theorem slash_not_mem_body (t : RunTable) : '/' ∉ (body t).toList := by
  rw [toList_body]
  simp only [List.mem_append, not_or]
  refine ⟨⟨⟨⟨by decide +kernel, ?_⟩, by decide +kernel⟩, ?_⟩, by decide +kernel⟩
  · exact slash_not_mem_setLines (fun _ _ hc => isBare_of_mem_numberLiteral hc) _ _
  · exact slash_not_mem_setLines (fun _ _ hc => isBare_of_mem_roleLiteral hc) _ _

theorem squeezed_body (t : RunTable) : squeezed (body t).toList =
    tableSource (t.starts.toList.flatMap fun c => numberLiteral c.toNat ++ [','])
      (t.roles.toList.flatMap fun r => roleLiteral r ++ [',']) := by
  have hstarts : squeezed "ClassificationData \x7b\n  starts: &[".toList =
      "ClassificationData\x7bstarts:&[".toList := by decide +kernel
  have hclasses : squeezed "  ],\n  classes: &[".toList = "],classes:&[".toList := by
    decide +kernel
  have hclose : squeezed "  ],\n\x7d\n".toList = "],\x7d".toList := by decide +kernel
  rw [toList_body, squeezed_append, squeezed_append, squeezed_append, squeezed_append, hstarts,
    hclasses, hclose, squeezed_numbers, squeezed_roles, List.flatMap_map]
  rfl

theorem denotes_of_comments (t : RunTable) {h : Header}
    (hcomment : ∀ line ∈ h.laterLines, "//".toList <+: line) : Denotes (text t h).toList t := by
  have hsource : squeezed (uncommented (text t h).toList) = squeezed (body t).toList := by
    rw [uncommented_text, kept_eq_nil_iff.2 hcomment, List.flatten_nil, List.nil_append,
      squeezed_uncommented (slash_not_mem_body t)]
  refine ⟨_, _, hsource.trans (squeezed_body t), ?_, ?_⟩
  · exact readAll?_flatMap code?_numberLiteral
      (fun _ => not_mem_of_isBare (fun _ hc => isBare_of_mem_numberLiteral hc) (by decide)) _
  · exact readAll?_flatMap role?_roleLiteral
      (fun _ => not_mem_of_isBare (fun _ hc => isBare_of_mem_roleLiteral hc) (by decide)) _

theorem denotes_text (t : RunTable) {h : Header} (hline : h.OneLine) :
    Denotes (text t h).toList t :=
  denotes_of_comments t (hline.laterLines_eq ▸ List.forall_mem_nil _)

theorem append_cons_injective {a : Char} {xs ys us vs : List Char} (hx : a ∉ xs) (hy : a ∉ ys)
    (h : xs ++ a :: us = ys ++ a :: vs) : xs = ys ∧ us = vs := by
  have hsplit := congrArg (List.splitOn a) h
  rw [List.splitOn_append_cons_self_of_not_mem hx,
    List.splitOn_append_cons_self_of_not_mem hy] at hsplit
  obtain rfl := (List.cons.inj hsplit).1
  exact ⟨rfl, List.cons.inj (List.append_cancel_left h) |>.2⟩

theorem tableSource_injective {starts starts' roles roles' : List Char} (hs : ']' ∉ starts)
    (hs' : ']' ∉ starts') (h : tableSource starts roles = tableSource starts' roles') :
    starts = starts' ∧ roles = roles' := by
  have hbracket : "],classes:&[".toList = ']' :: ",classes:&[".toList := by decide +kernel
  -- the starts go up to the first square bracket after the opening one
  delta tableSource at h
  rw [hbracket] at h
  simp only [List.append_assoc, List.cons_append] at h
  obtain ⟨hstarts, hrest⟩ := append_cons_injective hs hs' (List.append_cancel_left h)
  exact ⟨hstarts, List.append_cancel_right (List.append_cancel_left hrest)⟩

theorem Denotes.unique {cs : List Char} {t t' : RunTable} (h : Denotes cs t)
    (h' : Denotes cs t') : t = t' := by
  obtain ⟨starts, roles, hsource, hstarts, hroles⟩ := h
  obtain ⟨starts', roles', hsource', hstarts', hroles'⟩ := h'
  obtain ⟨rfl, rfl⟩ := tableSource_injective (bracket_not_mem_of_codes hstarts)
    (bracket_not_mem_of_codes hstarts') (hsource.symm.trans hsource')
  have hcodes := Option.some.inj (hstarts.symm.trans hstarts')
  have hnames := Option.some.inj (hroles.symm.trans hroles')
  obtain ⟨⟨_⟩, ⟨_⟩⟩ := t
  obtain ⟨⟨_⟩, ⟨_⟩⟩ := t'
  simp_all

def Sink.HasRoom (s : Sink) (text : String) : Prop :=
  ∀ n ∈ s.limit, s.received.length + (Text.bytes text).length ≤ n

theorem Sink.hasRoom_unlimited (text : String) : Sink.unlimited.HasRoom text := by
  intro n hn
  cases hn

theorem Sink.HasRoom.write {s : Sink} {part : String} (h : s.HasRoom part) :
    s.write part = ({ s with received := s.received ++ Text.bytes part }, .ok ()) := by
  obtain ⟨limit, received⟩ := s
  cases limit with
  | none => rfl
  | some n =>
    have hfits : received.length + (Text.bytes part).length ≤ n := h n rfl
    have hroom : (Text.bytes part).length ≤ n - received.length := Nat.le_sub_of_add_le' hfits
    simp only [Sink.write, List.take_of_length_le hroom, if_pos hroom]

theorem Sink.HasRoom.writeAll {s : Sink} {parts : List String}
    (h : s.HasRoom (String.join parts)) :
    s.writeAll parts =
      ({ s with received := s.received ++ Text.bytes (String.join parts) }, .ok ()) := by
  induction parts generalizing s with
  | nil => simp [Sink.writeAll, Text.bytes, String.toUTF8]
  | cons part rest ih =>
    have hbytes : Text.bytes (String.join (part :: rest)) =
        Text.bytes part ++ Text.bytes (String.join rest) := by
      rw [String.join_cons, Text.bytes_append]
    have hpart : s.HasRoom part := by
      intro n hn
      have hfits := h n hn
      rw [hbytes, List.length_append] at hfits
      omega
    have hrest : Sink.HasRoom { s with received := s.received ++ Text.bytes part }
        (String.join rest) := by
      intro n hn
      have hfits := h n hn
      rw [hbytes, List.length_append] at hfits
      rw [List.length_append]
      omega
    simp only [Sink.writeAll, hpart.write, ih hrest, hbytes, List.append_assoc]

theorem write_of_hasRoom {t : RunTable} {h : Header} {s : Sink} (hroom : s.HasRoom (text t h)) :
    write t h s =
      ⟨{ s with received := s.received ++ Text.bytes (text t h) }, .ok (), t.stats.events⟩ := by
  rw [write, Sink.HasRoom.writeAll hroom]
  rfl

theorem write_unlimited (t : RunTable) (h : Header) :
    write t h .unlimited = ⟨⟨none, Text.bytes (text t h)⟩, .ok (), t.stats.events⟩ :=
  write_of_hasRoom (Sink.hasRoom_unlimited _)

theorem ofCutBytes_bytes (s : String) : Text.ofCutBytes (Text.bytes s) = s := by
  rw [Text.ofCutBytes, Text.ofBytes?_bytes]

theorem text_write_unlimited (t : RunTable) (h : Header) :
    (write t h .unlimited).sink.text = text t h := by
  rw [write_unlimited, Sink.text, ofCutBytes_bytes]

theorem write_denotes (t : RunTable) {h : Header} (hline : h.OneLine) :
    (write t h .unlimited).result = .ok () ∧
      (∃ starts roles, squeezed (uncommented (write t h .unlimited).sink.text.toList) =
          tableSource starts roles ∧
        readAll? code? starts = some t.starts.toList ∧
        readAll? role? roles = some t.roles.toList) ∧
      (∀ (t' : RunTable) (h' : Header), h'.OneLine →
        (write t' h' .unlimited).sink.text = (write t h .unlimited).sink.text → t' = t) ∧
      ∀ t', Denotes (write t h .unlimited).sink.text.toList t' →
        t'.classifier = t.classifier := by
  have hdenotes := denotes_text t hline
  rw [← text_write_unlimited] at hdenotes
  refine ⟨by rw [write_unlimited], hdenotes, fun t' h' hline' hsame => ?_, fun t' ht' => ?_⟩
  · have hdenotes' := denotes_text t' hline'
    rw [← text_write_unlimited, hsame] at hdenotes'
    exact hdenotes'.unique hdenotes
  · rw [ht'.unique hdenotes]

theorem write_denotes_uneven : Header.OneLine ⟨some "15.1.0"⟩ ∧ ∃ starts roles,
    squeezed (uncommented (write ⟨#[0, 0x41, 0x10FFFF], #[.other]⟩ ⟨some "15.1.0"⟩
        .unlimited).sink.text.toList) = tableSource starts roles ∧
      readAll? code? starts = some [0, 0x41, 0x10FFFF] ∧ readAll? role? roles = some [.other] := by
  have hline : Header.OneLine ⟨some "15.1.0"⟩ := by
    rintro _ ⟨⟩
    decide +kernel
  exact ⟨hline, (write_denotes _ hline).2.1⟩

end CodeRuns.Listing
