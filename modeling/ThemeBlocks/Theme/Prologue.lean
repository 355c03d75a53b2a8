/-! The text before the generated part of a functions file that is used where a project brings none: it
loads the editor's styles and serves images in wanted sizes. -/

namespace ThemeBlocks.Theme

def prologueLines : List String :=
  ["<?php",
    "",
    "function blockgen_enqueue_editor_styles() \x7b",
    "    wp_enqueue_style('blockgen-admin-css', get_template_directory_uri() . '/astyle.css');",
    "\x7d",
    "",
    "function blockgen_handle_image_request() \x7b",
    "    if (isset($_GET['imageid']) && !empty($_GET['imageid'])) \x7b",
    "        $image_id = intval($_GET['imageid']);",
    "        $image_url = wp_get_attachment_url($image_id);",
    "",
    "        $width = isset($_GET['width']) ? intval($_GET['width']) : null;",
    "        $height = isset($_GET['height']) ? intval($_GET['height']) : null;",
    "        $quality = isset($_GET['quality']) ? intval($_GET['quality']) : 90;",
    "",
    "        if ($image_url) \x7b",
    "            $image_path = get_attached_file($image_id);",
    "            $image_mime = get_post_mime_type($image_id);",
    "",
    "            if (file_exists($image_path) && $image_mime) \x7b",
    "                header(\"Content-Type: $image_mime\");",
    "",
    "                if ($width && $height) \x7b",
    "                    $img = wp_get_image_editor($image_path);",
    "                    if (!is_wp_error($img)) \x7b",
    "                        $img->resize($width, $height, false);",
    "                        $img->set_quality($quality);",
    "                        $img->stream();",
    "                    \x7d else \x7b",
    "                        status_header(500);",
    "                        echo '500 Internal Server Error - Image processing failed';",
    "                    \x7d",
    "                \x7d else if ('image/jpeg' == $image_mime) \x7b",
    "                    $img = wp_get_image_editor($image_path);",
    "                    if (!is_wp_error($img)) \x7b",
    "                        $img->set_quality($quality);",
    "                        $img->stream();",
    "                    \x7d else \x7b",
    "                        status_header(500);",
    "                        echo '500 Internal Server Error - Image processing failed';",
    "                    \x7d",
    "                \x7d else \x7b",
    "                    readfile($image_path);",
    "                \x7d",
    "                exit;",
    "            \x7d",
    "        \x7d",
    "",
    "        status_header(404);",
    "        echo '404 Not Found';",
    "        exit;",
    "    \x7d",
    "\x7d",
    "add_action('init', 'blockgen_handle_image_request');",
    "",
    "add_action('enqueue_block_editor_assets', 'blockgen_enqueue_editor_styles');",
    ""]

def standardPrologue : String :=
  String.join (prologueLines.map (· ++ "\n"))

end ThemeBlocks.Theme
