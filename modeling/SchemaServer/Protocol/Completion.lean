import SchemaServer.Protocol.Edit

/-! # Completions sent back by the editor

The editor may ask for more about a completion that it got.  The server has nothing to add, so its
answer is the completion itself in normal form. -/

namespace SchemaServer.Protocol

open Json (Shape)

/-- A completion as the editor sends it back. -/
def completionForm : Shape Json :=
  normalRecord "CompletionItem" [.always "label" textForm,
    .sometimes "labelDetails" (normalRecord "CompletionItemLabelDetails"
      [.sometimes "detail" textForm, .sometimes "description" textForm]),
    .sometimes "kind" integerForm, .sometimes "detail" textForm,
    .sometimes "documentation" documentationForm, .sometimes "deprecated" booleanForm,
    .sometimes "preselect" booleanForm, .sometimes "sortText" textForm,
    .sometimes "filterText" textForm, .sometimes "insertText" textForm,
    .sometimes "insertTextFormat" integerForm, .sometimes "insertTextMode" integerForm,
    .sometimes "textEdit" completionEditForm,
    .sometimes "additionalTextEdits" (listForm editForm), .sometimes "command" commandForm,
    .sometimes "commitCharacters" (listForm textForm), .sometimes "data" .any,
    .sometimes "tags" (listForm integerForm)]

end SchemaServer.Protocol
