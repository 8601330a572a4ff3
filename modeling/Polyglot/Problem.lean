import Polyglot.Json.Printer

/-!
# Problems

Everything that can go wrong, as causes.  Each cause belongs to a category,
which gives the heading of its message and its severity; `Problem.message` is
the one place where messages are worded.  A problem met on the way to something
can be put in context: the message is then repeated in full with the context
behind it, except that a node of the wrong kind needs no explanation.
-/

set_option autoImplicit false

namespace Polyglot

/-- What a problem has to do with. -/
inductive Category where
  | config
  | resource
  | parse
  | io
  | serialization
  | node
  deriving DecidableEq, Repr

/-- How bad a problem is. -/
inductive Severity where
  | warning
  | error
  | critical
  deriving DecidableEq, Repr

namespace Category

/-- The first words of a message. -/
def heading : Category → Text
  | .config => "配置错误".toList
  | .resource => "资源表错误".toList
  | .parse => "解析错误".toList
  | .io => "IO错误".toList
  | .serialization => "序列化错误".toList
  | .node => "节点不是文本节点".toList

/-- The severity of a category's problems. -/
def severity : Category → Severity
  | .config | .resource => .critical
  | .parse | .io | .serialization => .error
  | .node => .warning

end Category

/-- The configuration fields that hold a language. -/
inductive LanguageField where
  | language
  | htmlLanguage
  | fallback
  deriving DecidableEq, Repr

/-- The name of a field in a configuration file. -/
def LanguageField.name : LanguageField → Text
  | .language => "language".toList
  | .htmlLanguage => "html_language".toList
  | .fallback => "fallback_lng".toList

/-- What went wrong. -/
inductive Problem where
  /-- A text was expected and another kind of node found. -/
  | notATextNode
  /-- A problem that was worded by whoever reports it. -/
  | worded (category : Category) (text : Text)
  | malformedJson
  | tableNotAnObject
  | tableEmpty
  | entryNotAnArray (language : Text)
  | itemNotAString (language : Text) (index : Nat) (item : Json)
  | unknownEncoding (label : Text)
  | noTableGiven
  | configUnknownEncoding (label : Text)
  | configUnknownLogLevel (level : Text)
  | configBlankField (field : LanguageField)
  | configUnreadable (reason : Text)
  | configUnwritable (reason : Text)
  | configMalformedToml
  | configMalformedJson
  | configNamesNoTable
  | withContext (context : Text) (problem : Problem)
  deriving Inhabited

namespace Problem

/-- What a problem has to do with. -/
def category : Problem → Category
  | notATextNode => .node
  | worded category _ => category
  | malformedJson | entryNotAnArray _ | itemNotAString _ _ _ => .parse
  | tableNotAnObject | tableEmpty => .resource
  | unknownEncoding _ | noTableGiven | configUnknownEncoding _ | configUnknownLogLevel _
  | configBlankField _ | configUnreadable _ | configUnwritable _ | configMalformedToml
  | configMalformedJson | configNamesNoTable => .config
  | withContext _ problem => problem.category

/-- A heading with the particulars behind it; the category of nodes has none. -/
def headed (category : Category) (particulars : Text) : Text :=
  if category = .node then category.heading
  else category.heading ++ ':' :: ' ' :: particulars

/-- What stands before the context at the end of a message. -/
def contextMark : Text := " (上下文: ".toList

/-- What a message says after its heading. -/
def particulars : Problem → Text
  | notATextNode => []
  | worded _ text => text
  | malformedJson => "JSON解析错误: malformed text".toList
  | tableNotAnObject => "资源表必须是 JSON 对象".toList
  | tableEmpty => "资源表中没有任何语言".toList
  | entryNotAnArray language =>
    "语言 '".toList ++ language ++ "' 的条目必须是字符串数组".toList
  | itemNotAString language index item =>
    "语言 '".toList ++ language ++ "' 第 ".toList ++ Text.ofNat index
      ++ " 项不是字符串: ".toList ++ item.compact
  | unknownEncoding label => "unknown encoding \"".toList ++ label ++ ['"']
  | noTableGiven => "no resource table given, use --resource or set I18N_DOM_RESOURCE".toList
  | configUnknownEncoding label => "未知的编码 \"".toList ++ label ++ ['"']
  | configUnknownLogLevel level => "无效的日志级别 \"".toList ++ level ++ ['"']
  | configBlankField field => field.name ++ " 不能为空字符串".toList
  | configUnreadable reason => "读取配置文件失败: ".toList ++ reason
  | configUnwritable reason => "写入配置文件失败: ".toList ++ reason
  | configMalformedToml => "解析TOML配置失败: malformed text or wrong types".toList
  | configMalformedJson => "解析JSON配置失败: malformed text or wrong types".toList
  | configNamesNoTable => "未指定资源表文件".toList
  | withContext context problem =>
    headed problem.category problem.particulars ++ contextMark ++ context ++ [')']

/-- The message of a problem. -/
def message (problem : Problem) : Text :=
  headed problem.category problem.particulars

/-- How bad a problem is. -/
def severity (problem : Problem) : Severity :=
  problem.category.severity

@[simp] theorem category_withContext (context : Text) (problem : Problem) :
    (withContext context problem).category = problem.category := rfl

/-- A problem in context repeats its message and then names the context. -/
theorem message_withContext (context : Text) (problem : Problem) :
    (withContext context problem).message
      = headed problem.category (problem.message ++ contextMark ++ context ++ [')']) := rfl

end Problem

end Polyglot
