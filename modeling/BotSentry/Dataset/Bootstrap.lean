import BotSentry.Dataset.Basic

/-!
# The built-in dataset

In force until a cached or synchronised dataset is available: well-known assistants and training
crawlers, and the chat products whose links show up as referrers.
-/

namespace BotSentry.Dataset

def crawlerDocs : String :=
  "https://support.anthropic.com/en/articles/8896518-does-anthropic-crawl-data-"
    ++ "from-the-web-and-how-can-site-owners-block-the-crawler"

/-- An assistant that fetches pages for its users. -/
def assistant (pattern url kind company : String) : BotPattern where
  pattern
  kind := Text.ofString kind
  category := Text.ofString "AI Agent"
  subcategory := Text.ofString "AI Assistants"
  company := some (Text.ofString company)
  isCompliant := true
  isModelTrainer := false
  intent := Text.ofString "UserQuery"
  url := some (Text.ofString url)

/-- A crawler that collects training data. -/
def trainer (pattern url kind company : String) : BotPattern where
  pattern
  kind := Text.ofString kind
  category := Text.ofString "AI Crawler"
  subcategory := Text.ofString "Model Training Crawlers"
  company := some (Text.ofString company)
  isCompliant := true
  isModelTrainer := true
  intent := Text.ofString "DataCollection"
  url := some (Text.ofString url)

def chatProduct (id name company url : String) (hosts : List String) : AiReferrer where
  id := Text.ofString id
  name := Text.ofString name
  company := some (Text.ofString company)
  url := some (Text.ofString url)
  patterns := hosts.map Text.ofString
  description := Text.ofString ("Traffic from " ++ name ++ " users clicking on links")

def bootstrap : Dataset where
  patterns := [
    assistant "ChatGPT-User/[0-9]" "https://platform.openai.com/docs/bots" "chatgpt-user" "OpenAI",
    assistant "Claude-User/[0-9]" crawlerDocs "claude-user" "Anthropic",
    trainer "CCBot/[0-9]" "https://commoncrawl.org/ccbot" "ccbot" "Common Crawl",
    trainer "GPTBot/[0-9]" "https://platform.openai.com/docs/gptbot" "gptbot" "OpenAI",
    trainer "ClaudeBot/[0-9]" crawlerDocs "claude-bot" "Anthropic"]
  referrers := [
    chatProduct "chatgpt" "ChatGPT" "OpenAI" "https://chat.openai.com"
      ["chat.openai.com", "chatgpt.com"],
    chatProduct "claude" "Claude" "Anthropic" "https://claude.ai" ["claude.ai"],
    chatProduct "perplexity" "Perplexity" "Perplexity AI" "https://perplexity.ai"
      ["perplexity.ai"]]
  version := Text.ofString "bootstrap"

end BotSentry.Dataset
