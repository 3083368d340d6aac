import Phrasebook.Proofs.Wrap.Completeness

/-! Literals that a comment asks to ignore. A pass leaves them as they are, except for those below an
expression of a wrapped template before which the comment stands: the call keeps the expression and
not the comment, and the walk looks for the comment after that. -/

namespace Phrasebook

open Node

namespace Pass

theorem Judged.leftBehind {env : Env} {us vs : List Focus} {g : Focus} (h : Judged env us vs g)
    (hg : Literal.hasIgnoreComment env.source g = true) :
    ∃ u ∈ us ++ vs, u.node.kind = "template_string" ∧ LeftBehind env.source u g := by
  obtain ⟨above, frames, haround, hexcluded, hsub⟩ := h
  rcases haround.hasIgnoreComment_or hg with hfound | ⟨u, hu, hleft⟩
  · simp [Env.isExcluded, Literal.isExcluded, hfound] at hexcluded
  · exact ⟨u, hsub hu, haround.kind u hu, hleft⟩

end Pass

/-- **Marker comments.** Whatever account of a pass is given, a literal in it that has a marker comment
in the tree as parsed, before it or before a node around it within its statement, is below an
expression of a wrapped template, and a marker comment stands before that expression in its
substitution. -/
theorem transform_ignores {settings : Settings} {tree : Tree} {out : Transformed}
    (htree : tree.Parsed) (htidy : tree.root.areTidy = true)
    (h : (transform settings tree).result = .ok out) :
    (∃ ws pieces, Splices settings tree out ws pieces) ∧
      ∀ ws pieces, Splices settings tree out ws pieces → ∀ g ∈ ws.map (·.focus),
        Literal.hasIgnoreComment tree.source g = true →
        ∃ u ∈ ws.map (·.focus), u.node.kind = "template_string" ∧ Pass.LeftBehind tree.source u g := by
  constructor
  · obtain ⟨made, b, root, hpass⟩ := passes_of_transform h
    obtain ⟨ws, hvisit⟩ := Pass.visit_of_walk htree.root hpass.walk
    exact ⟨ws, hpass.exists_splices htree hvisit⟩
  · intro ws pieces hsplices g hg hmarked
    obtain ⟨made, hvisit⟩ := hsplices.visit
    have hjudged : Pass.Judged (settings.env tree) [] (ws.map (·.focus)) g :=
      (hvisit.account_root htree.root htidy).judged g hg
    exact hjudged.leftBehind hmarked

namespace Sample

def ignoredCode : Text :=
  "function A(t)\x7b return f(\"가\",\n/* i18n-ignore */\n\n\n\"나\"); \x7d"

def ignored : Tree := (component (lookup 22 57 [quoted 24 29, leaf "," 29 30,
  answer "comment" true 31 48 none [], quoted 51 56]) 57).toTree ignoredCode

def ignoredString : Focus := place ignored [0, 3, 1, 1, 1, 4]

theorem ignored_parsed : ignored.Parsed := by decide

def markedCode : Text :=
  "function A(t)\x7b return `가 $\x7b\n/* i18n-ignore */\n\n\n\"나\"\x7d`; \x7d"

def marked : Tree := (component (answer "template_string" true 22 57 none [leaf "`" 22 23,
  answer "string_fragment" true 23 27 none [],
  answer "template_substitution" true 27 56 none [leaf "$\x7b" 27 29,
    answer "comment" true 30 47 none [], quoted 50 55, leaf "\x7d" 55 56],
  leaf "`" 56 57]) 57).toTree markedCode

def markedString : Focus := place marked [0, 3, 1, 1, 2, 2]

/-- What a pass makes of it. -/
def unmarkedCode : Text :=
  "function A(t)\x7b return t(\"가 \x7b\x7bexpr0\x7d\x7d\", \x7b expr0: t(\"나\") \x7d); \x7d"

end Sample

theorem transform_ignores_second :
    ∃ out, (transform Sample.settings Sample.ignored).result = .ok out ∧ out.modified = true ∧
      Literal.hasIgnoreComment Sample.ignored.source Sample.ignoredString = true ∧
      ∃ ws pieces, Splices Sample.settings Sample.ignored out ws pieces ∧
        Sample.ignoredString ∉ ws.map (·.focus) := by
  obtain ⟨out, hout, hmodified⟩ : ∃ out, (transform Sample.settings Sample.ignored).result = .ok out ∧
      out.modified = true := Logged.exists_of_any (by decide +kernel)
  have htidy : Sample.ignored.root.areTidy = true := by decide
  have hcomment : Literal.hasIgnoreComment Sample.ignored.source Sample.ignoredString = true := by
    decide +kernel
  obtain ⟨⟨ws, pieces, hsplices⟩, hall⟩ := transform_ignores Sample.ignored_parsed htidy hout
  refine ⟨out, hout, hmodified, hcomment, ws, pieces, hsplices, fun hg => ?_⟩
  obtain ⟨u, hu, hkind, s, hs, -, hle, -⟩ := hall ws pieces hsplices _ hg hcomment
  obtain ⟨made, hvisit⟩ := hsplices.visit
  have haccount := hvisit.account_root Sample.ignored_parsed.root htidy
  have hsub := (Pass.prefix_path_expressionFocus s).trans hle
  obtain ⟨hus, hne⟩ := Focus.prefix_path_of_mem_children hs
  have hpath := haccount.not_above (Sample.below_place Sample.ignored _ rfl)
    (by decide) hu hkind (hus.trans hsub)
  exact hne ((hpath ▸ hsub).eq_of_length_le hus.length_le)

/-- A string with a marker comment is replaced, since the call of the template around it leaves the
comment behind. -/
theorem transform_not_ignores_marked :
    Literal.hasIgnoreComment Sample.marked.source Sample.markedString = true ∧
      ∃ out, (transform Sample.settings Sample.marked).result = .ok out ∧
        out.code = Sample.unmarkedCode := by
  exact ⟨by decide +kernel, Logged.exists_of_any (by decide +kernel)⟩

end Phrasebook
